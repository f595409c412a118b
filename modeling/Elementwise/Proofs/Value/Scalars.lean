import Elementwise.Proofs.Time.Reading
import Elementwise.Proofs.Time.Span
import Elementwise.Proofs.Value.Guid
import Elementwise.Value.Decoding
import Elementwise.Value.Json

/-!
Characters, dates, spans, identifiers and days of the week read back from JSON.  All of them are
texts there, so each comes down to reading that text; `null` is the document of the absent value
only.  The least span is the one whose text cannot be read: its days and its time of day are added
up before the sign is put on, and the sum is one more than the greatest tick count.  Of the days of
the week those without a name are written as the text of their number, which is no name; only as a
number could they be read.
-/

namespace Elementwise.Value

open Number

/-! ### The absent value -/

theorem numberJson_ne_null (n : Number) : numberJson n ≠ .null := by
  have hfloat (x : Float) (text : String) : floatJson x text ≠ .null := by
    rw [floatJson]
    split
    · exact Json.noConfusion
    · split <;> exact Json.noConfusion
  cases n with
  | single x => exact hfloat _ _
  | double x => exact hfloat _ _
  | decimal d => exact hfloat _ _
  | _ => exact Json.noConfusion

/-- Only the absent value is written as `null`. -/
theorem json_ne_null {v : Value} (hv : v ≠ null) : v.json ≠ .null := by
  cases v with
  | null => exact absurd rfl hv
  | number n => exact numberJson_ne_null n
  | record fields values => exact Json.noConfusion
  | _ => exact Json.noConfusion

theorem decode_nullable {t : Ty} {j : Json} (hj : j ≠ .null) :
    decode (.nullable t) j = decode t j := by
  rw [decode]
  exact hj

/-! ### Texts -/

/-- What is read as a value without parts is that value. -/
theorem decode_of_scalar {t : Ty} {j : Json} {v : Value} (h : decodeScalar? t j = some v) :
    decode t j = .ok v := by
  have hscalar := h
  unfold decodeScalar? at h
  split at h
  -- the last case is that of a document that is no value of the type
  case h_11 => cases h
  all_goals simp only [decode, hscalar, if_true]

theorem decode_char (c : Char) : decode .char (char c).json = .ok (char c) := by
  have hchars : c.toString.toList = [c] := String.toList_singleton c
  have hscalar : decodeScalar? .char (.string c.toString) = some (char c) := by
    rw [decodeScalar?, hchars]
  exact decode_of_scalar hscalar

theorem decode_of_parse? {s : String} {t : Time.DateTime}
    (h : Time.DateTime.parse? s.toList = some t) :
    decode .dateTime (.string s) = .ok (dateTime t) := by
  refine decode_of_scalar ?_
  rw [decodeScalar?, h, Option.map_some]

theorem decode_dateTime {t : Time.DateTime} (ht : t.Ordinary) :
    decode .dateTime (dateTime t).json = .ok (dateTime t) := by
  refine decode_of_parse? (s := String.ofList t.json) ?_
  rw [String.toList_ofList, Time.DateTime.parse?_json ht]

theorem decode_dateTimeOffset {t : Time.OffsetDateTime} (ht : t.Ordinary) :
    decode .dateTimeOffset (dateTimeOffset t).json = .ok (dateTimeOffset t) := by
  refine decode_of_scalar (j := .string (String.ofList t.json)) ?_
  rw [decodeScalar?, String.toList_ofList, Time.OffsetDateTime.parse?_json ht, Option.map_some]

theorem decode_guid (g : Guid) : decode .guid (guid g).json = .ok (guid g) := by
  refine decode_of_scalar (j := .string (String.ofList g.text)) ?_
  rw [decodeScalar?, String.toList_ofList, Guid.parse?_text, Option.map_some]

/-! ### Spans -/

theorem text_ofTicks (t : Word .int64) : (Time.Span.ofTicks t.val).text = Time.spanText t.val := by
  have hmin := t.min_le
  have hmax := t.le_max
  rw [Time.Span.text, Time.Span.clampedTicks, Time.Span.wholeTicks_ofTicks]
  congr 1
  omega

/-- A span is read back from its text and from its JSON, unless it is the least. -/
theorem decode_timeSpan (t : Word .int64) :
    Time.spanTicks? (Time.spanText t.val) =
        (if t.val = WordKind.int64.min then none else some t.val) ∧
      decode .timeSpan (timeSpan (.ofTicks t.val)).json =
        if t.val = WordKind.int64.min then .error ⟨.timeSpan, "string"⟩
        else .ok (timeSpan (.ofTicks t.val)) := by
  refine ⟨Time.spanTicks?_spanText t, ?_⟩
  have hscalar : decodeScalar? .timeSpan (.string (String.ofList (Time.spanText t.val))) =
      if t.val = WordKind.int64.min then none else some (timeSpan (.ofTicks t.val)) := by
    rw [decodeScalar?, String.toList_ofList, Time.spanTicks?_spanText]
    split <;> rfl
  rw [json, text, text_ofTicks]
  by_cases hleast : t.val = WordKind.int64.min
  · rw [if_pos hleast] at hscalar ⊢
    simp only [decode, hscalar]
    rfl
  · rw [if_neg hleast] at hscalar ⊢
    exact decode_of_scalar hscalar

/-- The least span is written as a text that is read neither as ticks nor as a span. -/
theorem decode_timeSpan_least :
    Time.spanTicks? (Time.spanText (-9223372036854775808)) = none ∧
      decode .timeSpan (timeSpan (.ofTicks (-9223372036854775808))).json =
        .error ⟨.timeSpan, "string"⟩ :=
  ⟨rfl, rfl⟩

/-! ### Days of the week -/

theorem ofName?_name {n : Word .int32} {name : String} (h : DayOfWeek.name? n = some name) :
    DayOfWeek.ofName? name = some n := by
  have hnames : ∀ i : Fin 7, DayOfWeek.ofName? (DayOfWeek.names.get i) =
      some (Word.wrap .int32 (i : Nat)) := by decide
  unfold DayOfWeek.name? at h
  split at h
  · cases h
  · rename_i hnonneg
    obtain ⟨hlt, rfl⟩ := List.getElem?_eq_some_iff.1 h
    have hn : ((n.val.toNat : Nat) : Int) = n.val := Int.toNat_of_nonneg (Int.not_lt.1 hnonneg)
    have hword : Word.wrap .int32 ((n.val.toNat : Nat) : Int) = n := by
      rw [hn]
      exact Word.wrap_val n
    exact (hnames ⟨n.val.toNat, hlt⟩).trans (congrArg some hword)

/-- A number has a digit, and no name has one. -/
theorem ofName?_integer (n : Int) : DayOfWeek.ofName? (String.ofList (Text.integer n)) = none := by
  have hnames : (DayOfWeek.names.all fun name => (name.toList.map Text.asciiLower).all fun c =>
      !Text.isAsciiDigit c) = true := by decide
  simp only [List.all_eq_true, Bool.not_eq_true'] at hnames
  obtain ⟨c, cs, hdigits⟩ := List.exists_cons_of_ne_nil (Text.digits_ne_nil n.natAbs)
  have hmem : c ∈ Text.digits n.natAbs := hdigits ▸ List.mem_cons_self ..
  have hdigit := Text.isAsciiDigit_of_mem_digits hmem
  have hlower : Text.asciiLower c = c := by
    have hrange := Text.toNat_of_isAsciiDigit hdigit
    refine if_neg fun h => ?_
    simp only [Text.isAsciiUpper, Bool.and_eq_true, decide_eq_true_eq, Char.le_def,
      UInt32.le_iff_toNat_le] at h
    have : 65 ≤ c.toNat := h.1
    omega
  have hinteger : c ∈ Text.integer n := by
    rw [Text.integer]
    split
    · exact List.mem_cons_of_mem _ hmem
    · exact hmem
  rw [DayOfWeek.ofName?, List.findIdx?_eq_none_iff.2, Option.bind_none]
  intro name hname
  rw [Text.sameIgnoringAsciiCase, String.toList_ofList, beq_eq_false_iff_ne]
  intro heq
  have hletter := hnames name hname c (heq ▸ hlower ▸ List.mem_map_of_mem hinteger)
  rw [hdigit] at hletter
  cases hletter

/-- A day of the week is read back from its JSON if it has a name; its number is read in any case,
but that is not how it is written. -/
theorem decode_dayOfWeek (n : Word .int32) :
    decode .dayOfWeek (dayOfWeek n).json =
        (if (DayOfWeek.name? n).isSome then .ok (dayOfWeek n)
          else .error ⟨.dayOfWeek, "string"⟩) ∧
      decode .dayOfWeek (.number (.integer n.val)) = .ok (dayOfWeek n) := by
  constructor
  · rw [json, text]
    cases hname : DayOfWeek.name? n with
    | some name =>
        refine decode_of_scalar ?_
        rw [decodeScalar?, Option.getD_some, ofName?_name hname]
        rfl
    | none =>
        have hscalar : decodeScalar? .dayOfWeek (.string (String.ofList (Text.integer n.val))) =
            none := by
          rw [decodeScalar?, ofName?_integer]
          rfl
        simp only [decode, Option.getD_none, hscalar]
        rfl
  · refine decode_of_scalar ?_
    have hmin : -2147483648 ≤ n.val := n.min_le
    have hmax : n.val ≤ 2147483647 := n.le_max
    rw [decodeScalar?, JsonNumber.int64?, Time.ofInt?_of_mem (by omega) (by omega)]
    exact congrArg (Option.map dayOfWeek) (dif_pos ⟨n.min_le, n.le_max⟩)

/-- The day after Saturday has no name. -/
theorem decode_dayOfWeek_unnamed :
    (dayOfWeek (Word.wrap .int32 7)).json = .string "7" ∧
      decode .dayOfWeek (dayOfWeek (Word.wrap .int32 7)).json = .error ⟨.dayOfWeek, "string"⟩ :=
  ⟨rfl, rfl⟩

end Elementwise.Value
