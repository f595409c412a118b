import Elementwise.Eval.Fault
import Elementwise.Library.Builtin
import Elementwise.Proofs.Text.Numeral
import Elementwise.Term

/-!
Texts of one line.  Numbers, dates and spans are written in digits and signs, and the names of kinds,
functions and operations are fixed; so none of them has a line feed.
-/

namespace Elementwise

open Number (Binary NumericKind WordKind Scientific Format)
open Text (padded digits integer isAsciiDigit)

/-- The text has no line feed. -/
def OneLine (s : String) : Prop :=
  '\n' ∉ s.toList

instance (s : String) : Decidable (OneLine s) :=
  inferInstanceAs (Decidable ('\n' ∉ s.toList))

theorem oneLine_append_iff {s t : String} : OneLine (s ++ t) ↔ OneLine s ∧ OneLine t := by
  rw [OneLine, String.toList_append, List.mem_append, not_or]
  rfl

theorem OneLine.append {s t : String} (hs : OneLine s) (ht : OneLine t) : OneLine (s ++ t) :=
  oneLine_append_iff.2 ⟨hs, ht⟩

theorem oneLine_ofList {cs : List Char} : OneLine (String.ofList cs) ↔ '\n' ∉ cs := by
  rw [OneLine, String.toList_ofList]

/-! ### Numbers -/

@[simp]
theorem lineFeed_notMem_digits (n : Nat) : '\n' ∉ digits n :=
  fun h => Bool.false_ne_true (Text.isAsciiDigit_of_mem_digits h)

@[simp]
theorem lineFeed_notMem_padded (width n : Nat) : '\n' ∉ padded width n :=
  fun h => Bool.false_ne_true (Text.isAsciiDigit_of_mem_padded h)

@[simp]
theorem lineFeed_notMem_integer (n : Int) : '\n' ∉ integer n := by
  rw [integer]
  split <;> simp

theorem oneLine_showInt (n : Int) : OneLine (showInt n) :=
  oneLine_ofList.2 (lineFeed_notMem_integer n)

theorem oneLine_showNat (n : Nat) : OneLine (showNat n) :=
  oneLine_ofList.2 (lineFeed_notMem_digits n)

/-- A point among digits brings no line feed in. -/
theorem lineFeed_notMem_take_drop {cs : List Char} (h : '\n' ∉ cs) (n : Nat) :
    '\n' ∉ cs.take n ++ '.' :: cs.drop n := by
  simp only [List.mem_append, List.mem_cons, not_or]
  exact ⟨fun h' => h (List.mem_of_mem_take h'), by decide, fun h' => h (List.mem_of_mem_drop h')⟩

theorem lineFeed_notMem_decimal (d : Decimal) : '\n' ∉ d.text := by
  have hdigits := lineFeed_notMem_padded (d.scale + 1) d.coefficient
  unfold Decimal.text
  dsimp only
  generalize padded (d.scale + 1) d.coefficient = ds at hdigits ⊢
  have hbody : '\n' ∉ (if d.scale = 0 then ds
      else ds.take (ds.length - d.scale) ++ '.' :: ds.drop (ds.length - d.scale)) := by
    split
    · exact hdigits
    · exact lineFeed_notMem_take_drop hdigits _
  split
  · exact List.not_mem_cons_of_ne_of_not_mem (by decide) hbody
  · exact hbody

theorem lineFeed_notMem_shortest (f : Format) (m : Nat) (e : Int) :
    '\n' ∉ (Number.shortest f .up m e).digits := by
  unfold Number.shortest
  dsimp only
  split
  · rename_i d k _
    show '\n' ∉ Number.stripZeros (digits d)
    unfold Number.stripZeros
    rw [List.mem_reverse]
    intro h
    exact lineFeed_notMem_digits d (List.mem_reverse.1 ((List.dropWhile_suffix _).subset h))
  · exact List.not_mem_nil

theorem lineFeed_notMem_positional {s : Scientific} (h : '\n' ∉ s.digits) :
    '\n' ∉ s.positional := by
  unfold Scientific.positional
  dsimp only
  split
  · simp [h]
  · split
    · simp [h]
    · exact lineFeed_notMem_take_drop h _

theorem oneLine_floatPositional (x : Float) : OneLine (Number.floatPositional x) := by
  refine oneLine_ofList.2 ?_
  have hsigned {cs : List Char} (h : '\n' ∉ cs) (negative : Bool) :
      '\n' ∉ Format.signed negative cs := by
    unfold Format.signed
    split <;> simp [h]
  cases Binary.ofFloat x with
  | nan => decide
  | infinite negative => exact hsigned (by decide) negative
  | finite negative m e =>
      refine hsigned ?_ negative
      split
      · decide
      · exact lineFeed_notMem_positional (lineFeed_notMem_shortest _ m e)

/-! ### Dates and spans -/

theorem lineFeed_notMem_quoted (t : Time.DateTime) : '\n' ∉ t.quoted := by
  have hfraction : '\n' ∉ t.fractionText := by
    unfold Time.DateTime.fractionText Time.fractionText
    split
    · exact List.not_mem_nil
    · split
      · simp
      · split <;> simp
  have hyear : '\n' ∉ Time.yearText t.date.year := by
    unfold Time.yearText
    split
    · simp
    · split <;> simp
  simp [Time.DateTime.quoted, Time.DateTime.isoDate, Time.DateTime.clockText, hfraction, hyear]

theorem lineFeed_notMem_spanText (ticks : Int) : '\n' ∉ Time.spanText ticks := by
  unfold Time.spanText
  dsimp only
  split <;> split <;> split <;> simp

/-! ### Names -/

theorem oneLine_wordKind (k : WordKind) : OneLine k.name := by
  cases k <;> decide

theorem oneLine_kind (k : NumericKind) : OneLine k.name := by
  cases k with
  | word k => exact oneLine_wordKind k
  | _ => decide

theorem oneLine_kindName (v : Value) : OneLine v.kindName := by
  cases v with
  | number n => exact oneLine_kind n.kind
  | _ => simp [Value.kindName, OneLine]

theorem oneLine_boolean : OneLine Ty.boolean.name := by
  decide

theorem oneLine_dateTime : OneLine Ty.dateTime.name := by
  decide

theorem oneLine_timeSpan : OneLine Ty.timeSpan.name := by
  decide

theorem oneLine_guid : OneLine Ty.guid.name := by
  decide

theorem oneLine_operation (op : Operation) : OneLine op.name := by
  cases op <;> decide

theorem oneLine_query (q : Query) : OneLine q.name := by
  cases q with
  | orderBy descending => cases descending <;> decide
  | _ => simp [Query.name, OneLine]

theorem oneLine_memberName {b : Builtin} (hb : b.hasReceiver = true) : OneLine b.memberName := by
  cases b with
  | datePart part => cases part <;> decide
  | spanPart part => cases part <;> decide
  | spanTotal unit => cases unit <;> decide
  | addTime unit => cases unit <;> decide
  | stringLength | toUpper | toLower | trim | contains | startsWith | endsWith | substring | indexOf
  | replace | arrayLength | dayOfWeek | date | timeOfDay | addTicks | offset | localDateTime
  | utcDateTime | utcTicks | toByteArray => decide
  | _ => cases hb

end Elementwise
