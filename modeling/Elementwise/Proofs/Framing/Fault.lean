import Elementwise.Eval.Term
import Elementwise.Proofs.Framing.Text
import Elementwise.Proofs.Outcome

/-!
The messages of faults.  One kind of fault quotes a text that came in with the element, the one that
was to be read and could not; all else in a message is numbers, dates, spans and names.  So a message
has a line feed only if the text that it quotes has one, and this is said of every step of evaluation.
-/

namespace Elementwise

open Number (NumericKind Word)

/-- The text of the element that the message of a fault quotes. -/
def Fault.quoted? : Fault → Option String
  | invalidFormat input _ => some input
  | _ => none

/-- The message is one line if the text that it quotes is. -/
def Fault.Contained (f : Fault) : Prop :=
  (∀ input, f.quoted? = some input → OneLine input) → OneLine f.message

namespace Fault

variable {f : Fault} {value target name place : String}

theorem oneLine_overflow (hv : OneLine value) (ht : OneLine target) :
    OneLine (overflow value target).message :=
  .append (.append (.append (by simp [OneLine]) hv) (by simp [OneLine])) ht

theorem oneLine_invalidCast (h : OneLine name) (ht : OneLine target) :
    OneLine (invalidCast name target).message :=
  .append (.append (.append (by simp [OneLine]) h) (by simp [OneLine])) ht

namespace Contained

theorem of_message (h : OneLine f.message) : f.Contained :=
  fun _ => h

theorem overflow (hv : OneLine value) (ht : OneLine target) :
    (Fault.overflow value target).Contained :=
  of_message (oneLine_overflow hv ht)

theorem divisionByZero : Fault.divisionByZero.Contained :=
  of_message (show OneLine "division by zero" by simp [OneLine])

theorem nullReference (h : OneLine name) : (Fault.nullReference name).Contained :=
  of_message (.append (.append (by simp [OneLine]) h) (by simp [OneLine]))

theorem nullValue : Fault.nullValue.Contained :=
  of_message (show OneLine "nullable value has no value" by simp [OneLine])

theorem indexOutOfRange (index : Int) (length : Nat) :
    (Fault.indexOutOfRange index length).Contained :=
  of_message (.append (.append (.append (by simp [OneLine]) (oneLine_showInt index))
    (by simp [OneLine])) (oneLine_showNat length))

theorem emptySequence (h : OneLine name) : (Fault.emptySequence name).Contained :=
  of_message (h.append (by simp [OneLine]))

/-- The text that could not be read is as it is, whatever is in it. -/
theorem invalidFormat (input : String) (ht : OneLine target) :
    (Fault.invalidFormat input target).Contained :=
  fun h => .append (.append (.append (by simp [OneLine]) (h input rfl)) (by simp [OneLine])) ht

theorem castOf (v : Value) (ht : OneLine target) : (Fault.castOf v target).Contained :=
  of_message (oneLine_invalidCast (oneLine_kindName v) ht)

theorem invalidArgument (problem : ArgumentFault) : (Fault.invalidArgument problem).Contained := by
  refine of_message (.append (by simp [OneLine]) ?_)
  cases problem with
  | null position =>
      exact .append (.append (by simp [OneLine]) (oneLine_showNat position)) (by simp [OneLine])
  | year n | month n =>
      exact .append (.append (by simp [OneLine]) (oneLine_showInt n)) (by simp [OneLine])
  | roundingDigits limit => exact .append (by simp [OneLine]) (oneLine_showNat limit)
  | notANumberInterval => exact (by simp [OneLine] : OneLine "a time interval cannot be NaN")
  | emptyReplacement =>
      exact (by simp [OneLine] : OneLine "the string to replace cannot be empty")
  | notANumberSign => exact (by simp [OneLine] : OneLine "the sign of NaN is undefined")

theorem invalidPattern : Fault.invalidPattern.Contained :=
  of_message (show OneLine "invalid regular expression" by simp [OneLine])

theorem inputType (ht : OneLine target) (h : OneLine name) :
    (Fault.inputType target name).Contained :=
  of_message (.append (.append (.append (by simp [OneLine]) ht) (by simp [OneLine])) h)

theorem internal (h : OneLine name) : (Fault.internal name).Contained :=
  of_message (.append (by simp [OneLine]) h)

theorem unexpected (v : Value) (h : OneLine place) : (Fault.unexpected v place).Contained :=
  internal (.append (.append (.append (by simp [OneLine]) (oneLine_kindName v))
    (by simp [OneLine])) h)

end Contained

end Fault

namespace Eval

/-- What evaluation faults with is contained. -/
abbrev Contained {α : Type} (o : Except Fault α) : Prop :=
  FailsOnly Fault.Contained o

variable {v left right : Value} {args : List Value} {i : Nat}

theorem contained_unexpected {α : Type} (v : Value) {place : String} (h : OneLine place) :
    Contained (.error (.unexpected v place) : Except Fault α) :=
  .error (.unexpected v h)

/-! ### Arguments -/

theorem argument_contained (args : List Value) (i : Nat) : Contained (argument args i) := by
  unfold argument
  split
  · exact .ok
  · exact .error (.internal (.append (by simp [OneLine]) (oneLine_showNat i)))

theorem stringArgument_contained (args : List Value) (i : Nat) :
    Contained (stringArgument args i) := by
  refine (argument_contained args i).bind fun v => ?_
  split
  · exact .ok
  · exact .error (.invalidArgument _)
  · exact contained_unexpected _ (by simp [OneLine])

theorem int32Argument_contained (args : List Value) (i : Nat) :
    Contained (int32Argument args i) := by
  refine (argument_contained args i).bind fun v => ?_
  split
  · exact .ok
  · exact contained_unexpected _ (by simp [OneLine])

theorem int64Argument_contained (args : List Value) (i : Nat) :
    Contained (int64Argument args i) := by
  refine (argument_contained args i).bind fun v => ?_
  split
  · exact .ok
  · exact contained_unexpected _ (by simp [OneLine])

theorem doubleArgument_contained (args : List Value) (i : Nat) :
    Contained (doubleArgument args i) := by
  refine (argument_contained args i).bind fun v => ?_
  split
  · exact .ok
  · exact contained_unexpected _ (by simp [OneLine])

theorem spanArgument_contained (args : List Value) (i : Nat) :
    Contained (spanArgument args i) := by
  refine (argument_contained args i).bind fun v => ?_
  split
  · exact .ok
  · exact contained_unexpected _ (by simp [OneLine])

theorem clockArgument_contained (args : List Value) (i : Nat) :
    Contained (clockArgument args i) := by
  refine (argument_contained args i).bind fun v => ?_
  split
  · exact .ok
  · exact .ok
  · exact contained_unexpected _ (by simp [OneLine])

theorem optionalInt32_contained (args : List Value) (i : Nat) :
    Contained (optionalInt32 args i) :=
  .ite ((int32Argument_contained args i).map _) .ok

theorem offsetDate_contained (args : List Value) : Contained (offsetDate args) := by
  refine (argument_contained args 0).bind fun v => ?_
  split
  · exact .ok
  · exact contained_unexpected _ (by simp [OneLine])

/-! ### Conversions of numbers

Nothing of the element is quoted here but numbers. -/

/-- What is faulted with has a message of one line. -/
abbrev Terse {α : Type} (o : Except Fault α) : Prop :=
  FailsOnly (fun f => OneLine f.message) o

theorem Terse.contained {α : Type} {o : Except Fault α} (h : Terse o) : Contained o :=
  h.mono fun _ => .of_message

theorem oneLine_overflow (n : Int) (target : NumericKind) : OneLine (overflow n target).message :=
  Fault.oneLine_overflow (oneLine_showInt n) (oneLine_kind target)

theorem wrapInt_terse (n : Int) (target : NumericKind) : Terse (wrapInt n target) := by
  unfold wrapInt
  split
  · split
    · exact .ok
    · exact .error (oneLine_overflow _ _)
  · exact .ok
  · exact .ok
  · exact .ok
  · unfold decimalOfInt
    split
    · exact .ok
    · exact .error (oneLine_overflow _ _)

theorem checkInt_terse (n : Int) (target : NumericKind) : Terse (checkInt n target) := by
  unfold checkInt
  split
  · split
    · exact .ok
    · exact .error (oneLine_overflow _ _)
  · split
    · exact .ok
    · exact .error (oneLine_overflow _ _)
  · exact wrapInt_terse n target

theorem ofFloat_terse (x : Float) (source target : NumericKind) (checked : Bool) :
    Terse (ofFloat x source target checked) := by
  have hfloat : OneLine (Fault.overflow (Number.floatPositional x) target.name).message :=
    Fault.oneLine_overflow (oneLine_floatPositional x) (oneLine_kind target)
  unfold ofFloat
  split
  · exact .ok
  · exact .ok
  · dsimp only
    split
    · exact .ok
    · exact .error hfloat
  · exact .ite (.error (Fault.oneLine_invalidCast (oneLine_kind source) (oneLine_kind _)))
      (wrapInt_terse _ _)
  · refine .ite ?_ (wrapInt_terse _ _)
    split
    · exact checkInt_terse _ _
    · exact .error hfloat

theorem ofDecimal_terse (d : Decimal) (target : NumericKind) (checked : Bool) :
    Terse (ofDecimal d target checked) := by
  unfold ofDecimal
  split
  · exact .ok
  · exact .ok
  · exact .ok
  · exact .ite (.error (Fault.oneLine_invalidCast (oneLine_kind _) (oneLine_kind _)))
      (checkInt_terse _ _)
  · exact checkInt_terse _ _

theorem castNumber_terse (n : Number) (target : NumericKind) :
    Terse (castNumber n target) := by
  cases n with
  | char c => exact wrapInt_terse _ _
  | word k w => exact wrapInt_terse _ _
  | single x => exact ofFloat_terse _ _ _ _
  | double x => exact ofFloat_terse _ _ _ _
  | decimal d => exact ofDecimal_terse _ _ _

theorem convertNumber_terse (n : Number) (target : NumericKind) :
    Terse (convertNumber n target) := by
  cases n with
  | char c =>
      exact .ite (checkInt_terse _ _)
        (.error (Fault.oneLine_invalidCast (oneLine_kind _) (oneLine_kind target)))
  | word k w => exact checkInt_terse _ _
  | single x => exact ofFloat_terse _ _ _ _
  | double x => exact ofFloat_terse _ _ _ _
  | decimal d => exact ofDecimal_terse _ _ _

theorem cast_contained (v : Value) (target : NumericKind) : Contained (cast v target) := by
  unfold cast
  split
  · exact (castNumber_terse _ _).contained.map _
  · exact .error (.castOf v (oneLine_kind target))

/-! ### Reading -/

theorem parse_contained (text : String) (target : NumericKind) : Contained (parse text target) := by
  have hformat : Contained (.error (.invalidFormat text target.name) : Outcome) :=
    .error (.invalidFormat text (oneLine_kind target))
  unfold parse
  dsimp only
  split
  case h_5 =>
    split
    · exact (checkInt_terse _ _).contained.map _
    · exact hformat
  all_goals
    split
    · exact .ok
    · exact hformat

theorem convert_contained (v : Value) (target : NumericKind) : Contained (convert v target) := by
  have hcast : (Fault.castOf v target.name).Contained := .castOf v (oneLine_kind target)
  unfold convert
  split
  · exact .ok
  · exact .ite (.error hcast) ((wrapInt_terse _ _).contained.map _)
  · exact parse_contained _ _
  · exact (convertNumber_terse _ _).contained.map _
  · exact .error hcast

theorem toBoolean_contained (v : Value) : Contained (toBoolean v) := by
  have hcast : (Fault.castOf v Ty.boolean.name).Contained := .castOf v oneLine_boolean
  unfold toBoolean
  split
  · exact .ok
  · exact .ok
  · exact .ite .ok (.ite .ok (.error (.invalidFormat _ oneLine_boolean)))
  · exact .error hcast
  · exact .ok
  · exact .error hcast

/-! ### Operators -/

theorem notArithmetic_contained (op : Operation) : (notArithmetic op).Contained :=
  .internal ((oneLine_operation op).append (by simp [OneLine]))

theorem noArithmetic_contained (op : Operation) (left right : Value) :
    (noArithmetic op left right).Contained :=
  .internal (.append (.append (.append ((oneLine_operation op).append (by simp [OneLine]))
    (oneLine_kindName left)) (by simp [OneLine])) (oneLine_kindName right))

theorem oneLine_quoteOperation (op : Operation) (hl : OneLine left.text) (hr : OneLine right.text) :
    OneLine (quoteOperation op left right) :=
  .append (.append (.append (hl.append (by simp [OneLine])) (oneLine_operation op))
    (by simp [OneLine])) hr

theorem wordArithmetic_contained (op : Operation) {k : Number.WordKind} (a b : Word k) :
    Contained (wordArithmetic op k a b) := by
  have hoverflow : Contained (.error (.overflow (showInt a.val) k.name) : Outcome) :=
    .error (.overflow (oneLine_showInt _) (oneLine_wordKind k))
  cases op with
  | add | subtract | multiply => exact .ok
  | divide | modulo =>
      refine .ite (.error .divisionByZero) ?_
      split
      · exact .ok
      · exact hoverflow
  | _ => exact .error (notArithmetic_contained _)

theorem decimalArithmetic_contained (op : Operation) (a b : Decimal) :
    Contained (decimalArithmetic op a b) := by
  have htext (d : Decimal) : OneLine (Value.decimal d).text :=
    oneLine_ofList.2 (lineFeed_notMem_decimal d)
  have hoverflow : Contained (.error (.overflow (quoteOperation op (.decimal a) (.decimal b))
      NumericKind.decimal.name) : Outcome) :=
    .error (.overflow (oneLine_quoteOperation op (htext a) (htext b)) (oneLine_kind _))
  unfold decimalArithmetic
  dsimp only
  cases op with
  | add | subtract | multiply =>
      dsimp only
      split
      · exact .ok
      · exact hoverflow
  | divide | modulo =>
      refine .ite (.error .divisionByZero) ?_
      split
      · exact .ok
      · exact hoverflow
  | _ => exact .error (notArithmetic_contained _)

theorem shiftDate_contained (t : Time.DateTime) (s : Time.Span) : Contained (shiftDate t s) := by
  have hdate (t : Time.DateTime) : (dateOverflow t).Contained :=
    .overflow (oneLine_ofList.2 (lineFeed_notMem_quoted t)) oneLine_dateTime
  unfold shiftDate
  split
  · exact .error (hdate _)
  · exact .ite .ok (.error (hdate _))

theorem shiftOffsetDate_contained (t : Time.OffsetDateTime) (s : Time.Span) :
    Contained (shiftOffsetDate t s) :=
  (shiftDate_contained _ _).map _

theorem oneLine_span (s : Time.Span) : OneLine (Value.timeSpan s).text :=
  oneLine_ofList.2 (lineFeed_notMem_spanText _)

theorem temporalArithmetic?_contained (op : Operation) (left right : Value) :
    ∀ o, temporalArithmetic? op left right = some o → Contained o := by
  intro o h
  unfold temporalArithmetic? at h
  dsimp only at h
  split at h
  · cases h
    exact (shiftDate_contained _ _).map _
  · cases h
    exact (shiftOffsetDate_contained _ _).map _
  · cases h
    exact .ok
  · cases h
    exact .ok
  · split at h
    · cases h
      exact .ok
    · cases h
      exact .error (.overflow (oneLine_quoteOperation op (oneLine_span _) (oneLine_span _))
        oneLine_timeSpan)
  · cases h

theorem arithmetic_contained (op : Operation) (left right : Value) :
    Contained (arithmetic op left right) := by
  have hnone : Contained (.error (noArithmetic op left right) : Outcome) :=
    .error (noArithmetic_contained op left right)
  unfold arithmetic
  split
  · split
    · exact .ite (wordArithmetic_contained op _ _) hnone
    · exact hnone
  · cases op with
    | add | subtract | multiply | divide | modulo => exact .ok
    | _ => exact .error (notArithmetic_contained _)
  · cases op with
    | add | subtract | multiply | divide | modulo => exact .ok
    | _ => exact .error (notArithmetic_contained _)
  · exact decimalArithmetic_contained op _ _
  · cases h : temporalArithmetic? op left right with
    | none => exact hnone
    | some o => exact temporalArithmetic?_contained op left right o h

theorem unary_contained (op : UnaryOperator) (v : Value) : Contained (unary op v) := by
  unfold unary
  split
  case h_8 =>
    split
    · exact .ok
    · exact .error (.overflow (oneLine_span _) oneLine_timeSpan)
  case h_9 => exact contained_unexpected _ (by simp [OneLine])
  all_goals exact .ok

/-! ### Library functions -/

theorem needle_contained (v : Value) {place : String} (h : OneLine place) :
    Contained (needle v place) := by
  unfold needle
  split
  · exact .ok
  · exact .ok
  · exact .error (.invalidArgument _)
  · exact contained_unexpected _ h

theorem containsArgument_contained (cs : List Char) (args : List Value) :
    Contained (containsArgument cs args) := by
  refine (argument_contained args 1).bind fun v => ?_
  split
  · exact .ok
  · exact (stringArgument_contained args 1).bind fun _ => .ok

theorem substring_contained (cs : List Char) (start : Int) (length : Option Int) :
    Contained (substring cs start length) := by
  refine .ite (.error (.indexOutOfRange _ _)) ?_
  split
  · exact .ok
  · exact .ite (.error (.indexOutOfRange _ _)) .ok

theorem replace_contained (cs : List Char) (old new : Value) : Contained (replace cs old new) := by
  unfold replace
  split
  · exact .ok
  · refine .ite (.error (.invalidArgument _)) ?_
    split
    · exact .ok
    · exact .ok
    · exact contained_unexpected _ (by simp [OneLine])
  · exact .error (.invalidArgument _)
  · exact contained_unexpected _ (by simp [OneLine])

theorem spanOf_contained (amount : Float) (unit : TimeUnit) : Contained (spanOf amount unit) := by
  refine .ite (.error (.invalidArgument _)) ?_
  dsimp only
  split
  · exact .ok
  · exact .error (.overflow (oneLine_floatPositional amount) oneLine_timeSpan)

theorem addToDate_contained (v : Value) (s : Time.Span) : Contained (addToDate v s) := by
  unfold addToDate
  split
  · exact (shiftDate_contained _ _).map _
  · exact (shiftOffsetDate_contained _ _).map _
  · exact contained_unexpected _ (by simp [OneLine])

theorem validYear_contained (year : Int) : Contained (validYear year) :=
  .ite .ok (.error (.invalidArgument _))

theorem daysInMonth_contained (year month : Int) : Contained (daysInMonth year month) := by
  refine (validYear_contained year).bind fun year => ?_
  split
  · exact .ok
  · exact .error (.invalidArgument _)

theorem abs_contained (v : Value) : Contained (abs v) := by
  unfold abs
  split
  · refine .ite ?_ (contained_unexpected _ (by simp [OneLine]))
    split
    · exact .ok
    · exact .error (.overflow (oneLine_showInt _) (oneLine_kindName _))
  · exact .ok
  · exact .ok
  · exact .ok
  · exact contained_unexpected _ (by simp [OneLine])

theorem sign_contained (v : Value) : Contained (sign v) := by
  have hfloat (x : Float) : Contained (floatSign x) := .ite (.error (.invalidArgument _)) .ok
  unfold sign
  split
  · exact .ite .ok (contained_unexpected _ (by simp [OneLine]))
  · exact hfloat _
  · exact hfloat _
  · exact .ok
  · exact contained_unexpected _ (by simp [OneLine])

theorem round_contained (v : Value) (digits : Int) : Contained (round v digits) := by
  refine .ite (.error (.invalidArgument _)) ?_
  split
  · exact .ok
  · exact .ok
  · exact contained_unexpected _ (by simp [OneLine])

theorem toIntegral_contained (r : Number.Rounding) (f : Decimal → Option Decimal) (v : Value) :
    Contained (toIntegral r f v) := by
  unfold toIntegral
  split
  · exact .ok
  · split
    · exact .ok
    · exact .error (.overflow (oneLine_ofList.2 (lineFeed_notMem_decimal _)) (oneLine_kindName _))
  · exact contained_unexpected _ (by simp [OneLine])

theorem maxOrMin_contained (left right : Value) (largest : Bool) :
    Contained (maxOrMin left right largest) := by
  refine .ite .ok (.ite .ok ?_)
  split
  · exact .ok
  · exact .error (.internal (by simp [OneLine]))

theorem pattern_contained (given : Option Regex) (args : List Value) :
    Contained (pattern given args) := by
  refine (stringArgument_contained args 1).bind fun text => ?_
  split
  · exact .ok
  · split
    · exact .ok
    · exact .error .invalidPattern

theorem invokeNonNull_contained (b : Builtin) (args : List Value) (given : Option Regex) :
    Contained (invokeNonNull b args given) := by
  have hany := argument_contained args
  have hstring := stringArgument_contained args
  have hdouble := doubleArgument_contained args
  cases b with
  | concat => exact .ok
  -- the arguments are there and of the form expected, and that is all that can go wrong
  | toText | hasValue => exact (hany 0).bind fun _ => .ok
  | stringLength | toUpper | toLower | trim => exact (hstring 0).bind fun _ => .ok
  | startsWith | endsWith => exact (hstring 0).bind fun _ => (hstring 1).bind fun _ => .ok
  | datePart | dayOfWeek | date | timeOfDay =>
      exact (clockArgument_contained args 0).bind fun _ => .ok
  | offset | localDateTime | utcDateTime | utcTicks =>
      exact (offsetDate_contained args).bind fun _ => .ok
  | spanPart | spanTotal => exact (spanArgument_contained args 0).bind fun _ => .ok
  | spanFromTicks => exact (int64Argument_contained args 0).bind fun _ => .ok
  | math => exact (hdouble 0).bind fun _ => .ok
  | pow | atan2 => exact (hdouble 0).bind fun _ => (hdouble 1).bind fun _ => .ok
  -- a test of the form of an argument
  | nullableValue =>
      refine (hany 0).bind fun v => ?_
      split
      · exact .error .nullValue
      · exact .ok
  | getValueOrDefault =>
      refine (hany 0).bind fun v => ?_
      split
      · exact hany 1
      · exact .ok
  | isNullOrEmpty | isNullOrWhiteSpace =>
      refine (hany 0).bind fun v => ?_
      split <;> exact .ok
  | charTest | arrayLength | toByteArray =>
      refine (hany 0).bind fun v => ?_
      split
      · exact .ok
      · exact contained_unexpected _ (by simp [OneLine])
  -- a text that is read, or converted
  | parseBoolean => exact (hstring 0).bind fun _ => toBoolean_contained _
  | parseNumber => exact (hstring 0).bind fun _ => parse_contained _ _
  | parseGuid =>
      refine (hstring 0).bind fun text => ?_
      split
      · exact .ok
      · exact .error (.invalidFormat _ oneLine_guid)
  | convert target =>
      cases target with
      | boolean => exact (hany 0).bind fun _ => toBoolean_contained _
      | numeric => exact (hany 0).bind fun _ => convert_contained _ _
      | string => exact (hany 0).bind fun _ => .ok
  -- functions that have faults of their own
  | contains => exact (hstring 0).bind fun _ => containsArgument_contained _ _
  | substring =>
      exact (optionalInt32_contained args 2).bind fun _ => (hstring 0).bind fun _ =>
        (int32Argument_contained args 1).bind fun _ => (substring_contained _ _ _).map _
  | indexOf =>
      exact (hstring 0).bind fun _ => (hany 1).bind fun _ =>
        (needle_contained _ (by simp [OneLine])).bind fun _ => .ok
  | replace =>
      exact (hstring 0).bind fun _ => (hany 1).bind fun _ => (hany 2).bind fun _ =>
        (replace_contained _ _ _).map _
  | daysInMonth =>
      exact (int32Argument_contained args 0).bind fun _ =>
        (int32Argument_contained args 1).bind fun _ => daysInMonth_contained _ _
  | isLeapYear =>
      exact (int32Argument_contained args 0).bind fun _ => (validYear_contained _).bind fun _ => .ok
  | addTime unit =>
      exact (hdouble 1).bind fun _ => (spanOf_contained _ unit).bind fun _ =>
        (hany 0).bind fun _ => addToDate_contained _ _
  | addTicks =>
      exact (hany 0).bind fun _ => (int64Argument_contained args 1).bind fun _ =>
        addToDate_contained _ _
  | spanFrom unit =>
      exact (hdouble 0).bind fun _ => (spanOf_contained _ unit).bind fun _ => .ok
  | abs => exact (hany 0).bind fun _ => abs_contained _
  | sign => exact (hany 0).bind fun _ => sign_contained _
  | floor | ceiling | truncate => exact (hany 0).bind fun _ => toIntegral_contained _ _ _
  | round =>
      exact (optionalInt32_contained args 1).bind fun _ => (hany 0).bind fun _ => round_contained _ _
  | max | min =>
      exact (hany 0).bind fun _ => (hany 1).bind fun _ => maxOrMin_contained _ _ _
  | regexIsMatch =>
      exact (pattern_contained given args).bind fun _ => (hstring 0).bind fun _ => .ok
  | regexReplace =>
      exact (pattern_contained given args).bind fun _ => (hstring 0).bind fun _ =>
        (hstring 2).bind fun _ => .ok

theorem invoke_contained (b : Builtin) (args : List Value) (given : Option Regex) :
    Contained (invoke b args given) := by
  unfold invoke
  split
  · rename_i hb
    refine (argument_contained args 0).bind fun v => ?_
    split
    · exact .error (.nullReference (oneLine_memberName hb))
    · exact invokeNonNull_contained b args given
  · exact invokeNonNull_contained b args given

/-! ### Queries -/

section Queries

variable {f : ItemFunction} {body : Option ItemFunction}

/-- A query that needs a function goes on with it. -/
theorem requireBody_contained {α : Type} (q : Query) {g : ItemFunction → Except Fault α}
    (hg : ∀ f, body = some f → Contained (g f)) : Contained (requireBody q body >>= g) := by
  cases body with
  | none => exact .error (.internal ((oneLine_query q).append (by simp [OneLine])))
  | some f => exact hg f rfl

theorem holds_contained (hf : ∀ v, Contained (f v)) (v : Value) : Contained (holds f v) := by
  refine (hf v).bind fun v => ?_
  unfold truth
  split
  · exact .ok
  · exact contained_unexpected _ (by simp [OneLine])

theorem keep_contained (hf : ∀ v, Contained (f v)) (items : List Value) :
    Contained (keep f items) := by
  induction items with
  | nil => exact .ok
  | cons v vs ih => exact (holds_contained hf v).bind fun _ => ih.bind fun _ => .ok

theorem project_contained (hf : ∀ v, Contained (f v)) (items : List Value) :
    Contained (project f items) := by
  induction items with
  | nil => exact .ok
  | cons v vs ih => exact (hf v).bind fun _ => ih.bind fun _ => .ok

theorem matching_contained (hbody : ∀ f, body = some f → ∀ v, Contained (f v))
    (items : List Value) : Contained (matching items body) := by
  cases body with
  | none => exact .ok
  | some f => exact keep_contained (hbody f rfl) items

theorem projected_contained (hbody : ∀ f, body = some f → ∀ v, Contained (f v))
    (items : List Value) : Contained (projected items body) := by
  cases body with
  | none => exact .ok
  | some f => exact project_contained (hbody f rfl) items

theorem anyM_contained (hf : ∀ v, Contained (f v)) (items : List Value) :
    Contained (items.anyM (holds f)) := by
  induction items with
  | nil => exact .ok
  | cons v vs ih =>
      refine (holds_contained hf v).bind fun b => ?_
      cases b with
      | true => exact .ok
      | false => exact ih

theorem allM_contained (hf : ∀ v, Contained (f v)) (items : List Value) :
    Contained (items.allM (holds f)) := by
  induction items with
  | nil => exact .ok
  | cons v vs ih =>
      refine (holds_contained hf v).bind fun b => ?_
      cases b with
      | true => exact ih
      | false => exact .ok

theorem sumOverflow_contained (k : NumericKind) : (sumOverflow k).Contained :=
  .overflow (by simp [OneLine]) (oneLine_kind k)

theorem sumWords_contained (values : List Value) : Contained (sumWords values) := by
  refine .foldlM (fun total v => ?_) values 0
  dsimp only
  split
  · refine .bind .ok fun n => ?_
    split
    · exact .ok
    · exact .error (sumOverflow_contained _)
  · refine .bind .ok fun n => ?_
    split
    · exact .ok
    · exact .error (sumOverflow_contained _)
  · exact contained_unexpected _ (by simp [OneLine])

theorem sumSingles_contained (values : List Value) : Contained (sumSingles values) := by
  refine .foldlM (fun total v => ?_) values 0
  split
  · exact .ok
  · exact contained_unexpected _ (by simp [OneLine])

theorem sumDoubles_contained (values : List Value) : Contained (sumDoubles values) := by
  refine .foldlM (fun total v => ?_) values 0
  split
  · exact .ok
  · exact contained_unexpected _ (by simp [OneLine])

theorem sumDecimals_contained (values : List Value) : Contained (sumDecimals values) := by
  refine .foldlM (fun total v => ?_) values Decimal.zero
  split
  · split
    · exact .ok
    · exact .error (sumOverflow_contained _)
  · exact contained_unexpected _ (by simp [OneLine])

theorem sum_contained (k : NumericKind) (values : List Value) : Contained (sum k values) := by
  unfold sum
  split
  · refine (sumWords_contained values).bind fun n => ?_
    split
    · exact .ok
    · exact .error (sumOverflow_contained _)
  · exact (sumWords_contained values).bind fun _ => .ok
  · exact (sumSingles_contained values).bind fun _ => .ok
  · exact (sumDoubles_contained values).bind fun _ => .ok
  · exact (sumDecimals_contained values).bind fun _ => .ok
  · exact .error (.internal (.append (by simp [OneLine]) (oneLine_kind _)))

theorem average_contained (k : NumericKind) (values : List Value) :
    Contained (average k values) := by
  unfold average
  dsimp only
  split
  · exact (sumWords_contained values).bind fun _ => .ok
  · exact (sumWords_contained values).bind fun _ => .ok
  · exact (sumSingles_contained values).bind fun _ => .ok
  · exact (sumDoubles_contained values).bind fun _ => .ok
  · refine (sumDecimals_contained values).bind fun n => ?_
    split
    · exact .ok
    · exact .error (.overflow (by simp [OneLine]) (oneLine_kind _))
  · exact .error (.internal (.append (by simp [OneLine]) (oneLine_kind _)))

theorem itemCount_contained (args : List Value) : Contained (itemCount args) := by
  unfold itemCount
  split
  · exact .ok
  · exact contained_unexpected _ (by simp [OneLine])
  · exact .error (.internal (by simp [OneLine]))

theorem emptySequence_contained (q : Query) : (emptySequence q).Contained :=
  .emptySequence (oneLine_query q)

theorem itemOr_contained (q : Query) (item : Option Value) : Contained (itemOr q item) := by
  unfold itemOr
  split
  · exact .ok
  · exact .error (emptySequence_contained q)

theorem extremum_contained (q : Query) (wanted : Ordering) (items : List Value)
    (hbody : ∀ f, body = some f → ∀ v, Contained (f v)) :
    Contained (extremum q wanted items body) :=
  (projected_contained hbody items).bind fun _ => .ite (.error (emptySequence_contained q)) .ok

/-- A query faults as its function does, or in a way of its own. -/
theorem query_contained (q : Query) (items : List Value)
    (hbody : ∀ f, body = some f → ∀ v, Contained (f v)) (args : List Value) :
    Contained (query q items body args) := by
  have hmatching := matching_contained hbody items
  have hprojected := projected_contained hbody items
  cases q with
  | toArray | distinct | reverse => exact .ok
  | select =>
      exact requireBody_contained _ fun f hf =>
        (project_contained (hbody f hf) items).bind fun _ => .ok
  | filter =>
      exact requireBody_contained _ fun f hf =>
        (keep_contained (hbody f hf) items).bind fun _ => .ok
  | orderBy =>
      exact requireBody_contained _ fun f hf =>
        .bind ((project_contained (hbody f hf) items).bind fun _ => .ok) fun _ => .ok
  | all =>
      exact requireBody_contained _ fun f hf =>
        (allM_contained (hbody f hf) items).bind fun _ => .ok
  | any =>
      cases body with
      | none => exact .ok
      | some f => exact (anyM_contained (hbody f rfl) items).bind fun _ => .ok
  | count | firstOrDefault | lastOrDefault => exact hmatching.bind fun _ => .ok
  | first | last => exact hmatching.bind fun _ => itemOr_contained _ _
  | sum k => exact hprojected.bind fun _ => sum_contained k _
  | average k =>
      exact hprojected.bind fun _ =>
        .ite (.error (emptySequence_contained _)) (average_contained k _)
  | min | max => exact extremum_contained _ _ items hbody
  | contains =>
      cases args with
      | nil => exact .error (.internal (by simp [OneLine]))
      | cons v vs => exact .ok
  | take | skip => exact (itemCount_contained args).bind fun _ => .ok

end Queries

/-! ### Terms -/

theorem nonNull_contained (lifted : Bool) (v : Value) {f : Value → Outcome}
    (hf : ∀ v, Contained (f v)) : Contained (nonNull lifted v f) := by
  unfold nonNull
  split
  · exact .ite .ok (.error .nullValue)
  · exact hf v

theorem coerce_contained (c : Coercion) (v : Value) : Contained (coerce c v) := by
  unfold coerce
  split
  · exact cast_contained _ _
  · exact .ite .ok (cast_contained _ _)
  all_goals exact .ok

/-- The type that an object is taken for is the only text of a conversion's own. -/
theorem convertBy_contained {c : Conversion} (hc : ∀ t, c = .unbox t → OneLine t.name) (v : Value) :
    Contained (convertBy c v) := by
  have hday (v : Value) : Contained (dayOfNumber v) := by
    refine (cast_contained _ _).bind fun v => ?_
    split
    · exact .ok
    · exact contained_unexpected _ (by simp [OneLine])
  have hnumber (v : Value) : Contained (numberOfDay v) := by
    unfold numberOfDay
    split
    · exact .ok
    · exact contained_unexpected _ (by simp [OneLine])
  cases c with
  | numeric target lifted => exact nonNull_contained _ v fun _ => cast_contained _ _
  | toDayOfWeek => exact nonNull_contained _ v hday
  | ofDayOfWeek => exact nonNull_contained _ v hnumber
  | unwrap => exact nonNull_contained _ v fun _ => .ok
  | unbox t => exact .ite .ok (.ite (.error .nullValue) (.error (.castOf v (hc t rfl))))

theorem binaryOn_contained (op : Operation) (lifted : Bool) (left right : Value) :
    Contained (binaryOn op lifted left right) := by
  cases op with
  | concat | equal | notEqual | lessThan | greaterThan | lessEqual | greaterEqual => exact .ok
  | _ => exact .ite .ok (arithmetic_contained _ _ _)

theorem fieldOf_contained (v : Value) (index : Nat) (conditional : Bool) :
    Contained (fieldOf v index conditional) := by
  unfold fieldOf
  split
  · split
    · exact .ok
    · exact .error (.internal (.append (by simp [OneLine]) (oneLine_showNat index)))
  · exact .ite .ok (.error (.nullReference (.append (by simp [OneLine]) (oneLine_showNat index))))
  · exact contained_unexpected _ (by simp [OneLine])

theorem elementAt_contained (target position : Value) : Contained (elementAt target position) := by
  unfold elementAt
  split
  · dsimp only
    split
    · split
      · exact .ok
      · exact .error (.indexOutOfRange _ _)
    · refine .map ?_ _
      split
      · exact .ok
      · exact .error (.indexOutOfRange _ _)
    · exact contained_unexpected _ (by simp [OneLine])
  · exact contained_unexpected _ (by simp [OneLine])

theorem itemsOf_contained (q : Query) (v : Value) : Contained (itemsOf q v) := by
  unfold itemsOf
  split
  · exact .ok
  · exact .error (.nullReference (oneLine_query q))
  · exact contained_unexpected _ (oneLine_query q)

theorem evaluateAll_contained {ts : List Term} {env : List Value}
    (h : ∀ t ∈ ts, Contained (evaluate t env)) : Contained (evaluateAll ts env) := by
  induction ts with
  | nil => exact .ok
  | cons t ts ih =>
      obtain ⟨ht, hts⟩ := List.forall_mem_cons.1 h
      rw [evaluateAll]
      exact ht.bind fun _ => (ih hts).bind fun _ => .ok

theorem evaluateArguments_contained {ts : List Term} {env : List Value} (conditional : Bool)
    (h : ∀ t ∈ ts, Contained (evaluate t env)) :
    Contained (evaluateArguments conditional ts env) := by
  cases ts with
  | nil => exact .ok
  | cons t ts =>
      obtain ⟨ht, hts⟩ := List.forall_mem_cons.1 h
      rw [evaluateArguments]
      refine ht.bind fun v => ?_
      split
      · exact .ok
      · exact (evaluateAll_contained hts).bind fun _ => .ok

end Eval

end Elementwise
