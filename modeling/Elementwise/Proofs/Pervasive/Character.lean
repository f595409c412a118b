import Elementwise.Proofs.Exact.Widening
import Elementwise.Proofs.Pervasive.Evaluation

/-!
Characters with codes of 16 bits.  All casts and checked conversions to characters give such ones, and
so does every stage for an element without others, except where a character is taken over from a text:
texts may hold characters beyond, and these do not come back from their codes.
-/

namespace Elementwise

open Number (NumericKind Word)

/-- A character has a code of 16 bits. -/
def Number.IsNarrow : Number → Prop
  | char c => c.toNat ≤ 0xFFFF
  | _ => True

namespace Value

mutual

/-- Every character in the value, at any depth, has a code of 16 bits. -/
def IsNarrow : Value → Prop
  | number n => n.IsNarrow
  | array items => AreNarrow items
  | record _ values => AreNarrow values
  | null | boolean _ | string _ | guid _ | dayOfWeek _ | dateTime _ | dateTimeOffset _
  | timeSpan _ => True

def AreNarrow : List Value → Prop
  | [] => True
  | v :: vs => v.IsNarrow ∧ AreNarrow vs

end

theorem areNarrow_iff {vs : List Value} : AreNarrow vs ↔ ∀ v ∈ vs, v.IsNarrow := by
  induction vs with
  | nil => exact ⟨fun _ => nofun, fun _ => trivial⟩
  | cons v vs ih => rw [AreNarrow, ih, List.forall_mem_cons]

theorem isNarrow_pervasive : Pervasive IsNarrow where
  plain {v} h := by
    cases v with
    | number n =>
        cases n with
        | char => cases h
        | _ => trivial
    | array | record => cases h
    | dateTime | dateTimeOffset | timeSpan => cases h
    | _ => trivial
  array_iff := areNarrow_iff
  record_iff := areNarrow_iff

end Value

namespace Eval

open Value (isNarrow_pervasive)

variable {env : List Value} {k : NumericKind}

/-! ### Conversions -/

theorem le_of_charOf? {w : Word .uint16} {c : Char} (h : charOf? w.val.toNat = some c) :
    c.toNat ≤ 0xFFFF := by
  have hmin := w.min_le
  have hmax := w.le_max
  rw [uint16_min] at hmin
  rw [uint16_max] at hmax
  rw [charOf?_eq_some.1 h]
  omega

theorem wrapInt_char_isNarrow (n : Int) : Ensures Number.IsNarrow (wrapInt n .char) := by
  rw [wrapInt]
  split
  · rename_i h
    exact .ok (le_of_charOf? h)
  · exact .error

theorem checkInt_char_isNarrow (n : Int) : Ensures Number.IsNarrow (checkInt n .char) := by
  rw [checkInt]
  split
  · rename_i h
    obtain ⟨w, -, h⟩ := Option.bind_eq_some_iff.1 h
    exact .ok (le_of_charOf? h)
  · exact .error

theorem castNumber_char_isNarrow (n : Number) : Ensures Number.IsNarrow (castNumber n .char) := by
  cases n with
  | decimal d => exact checkInt_char_isNarrow d.toInt
  | _ => exact wrapInt_char_isNarrow _

theorem convertNumber_char_isNarrow (n : Number) :
    Ensures Number.IsNarrow (convertNumber n .char) := by
  cases n with
  | char | word => exact checkInt_char_isNarrow _
  | _ => exact .error

theorem HasType.isNarrow {o : Outcome} (h : HasType o (.numeric k)) (hk : k ≠ .char) :
    Ensures Value.IsNarrow o :=
  h.plain isNarrow_pervasive (bne_iff_ne.2 hk)

theorem cast_isNarrow (v : Value) (k : NumericKind) : Ensures Value.IsNarrow (cast v k) := by
  by_cases hk : k = .char
  · subst hk
    cases v with
    | number n => exact (castNumber_char_isNarrow n).map fun _ hm => hm
    | _ => exact .error
  · exact (cast_hasType v k).isNarrow hk

theorem temporalArithmetic?_isNarrow {op : Operation} {left right : Value} {o : Outcome}
    (h : temporalArithmetic? op left right = some o) : Ensures Value.IsNarrow o := by
  unfold temporalArithmetic? at h
  dsimp only at h
  split at h
  · cases h
    exact (Ensures.trivial _).map fun _ _ => trivial
  · cases h
    exact (Ensures.trivial _).map fun _ _ => trivial
  · cases h
    exact .ok trivial
  · cases h
    exact .ok trivial
  · split at h
    · cases h
      exact .ok trivial
    · cases h
      exact .error
  · cases h

theorem addToDate_isNarrow (v : Value) (s : Time.Span) :
    Ensures Value.IsNarrow (addToDate v s) := by
  unfold addToDate
  split
  · exact (Ensures.trivial _).map fun _ _ => trivial
  · exact (Ensures.trivial _).map fun _ _ => trivial
  · exact .error

theorem isNarrow_operable : Operable Value.IsNarrow where
  toPervasive := isNarrow_pervasive
  cast := cast_isNarrow
  negate _ := by
    unfold unary
    dsimp only
    split
    · exact .ok trivial
    · exact .error
  temporal _ _ h := temporalArithmetic?_isNarrow h

/-! ### Texts -/

theorem mem_of_mem_trim {c : Char} {cs : List Char} (h : c ∈ Text.trim cs) : c ∈ cs := by
  have hend := List.mem_reverse.1 h
  have hstart := List.mem_reverse.1 ((List.dropWhile_sublist _).subset hend)
  exact (List.dropWhile_sublist _).subset hstart

theorem parse_char_eq_ok {text : String} {v : Value} (h : parse text .char = .ok v) :
    ∃ c ∈ text.toList, v = .char c := by
  unfold parse at h
  dsimp only at h
  split at h
  · rename_i c hc
    cases h
    exact ⟨c, mem_of_mem_trim (hc ▸ List.mem_singleton_self c), rfl⟩
  · cases h

/-- Functions that read a string as a character. -/
def readsCharacter : Builtin → Bool
  | .parseNumber k | .convert (.numeric k) => k = .char
  | _ => false

/-- A part of an expression takes a character over from a text: it is a literal, or gives an item of a
string, or what a string is read as. -/
inductive TakesCharacter (env : List Value) : Term → Char → Prop where
  | literal (c : Char) (ty : Ty) : TakesCharacter env (.constant (.char c) ty) c
  | item {receiver index : Term} {conditional : Bool} {ty : Ty} {s : String} {c : Char}
    (hs : evaluate receiver env = .ok (.string s)) (hmem : c ∈ s.toList)
    (hc : evaluate (.index receiver index conditional ty) env = .ok (.char c)) :
    TakesCharacter env (.index receiver index conditional ty) c
  | reading {b : Builtin} {args : List Term} {conditional : Bool} {ty : Ty} {s : String}
    {others : List Value} {c : Char} (hb : readsCharacter b = true)
    (hs : evaluateArguments conditional args env = .ok (some (.string s :: others)))
    (hmem : c ∈ s.toList) (hc : evaluate (.call b args conditional ty) env = .ok (.char c)) :
    TakesCharacter env (.call b args conditional ty) c

/-! ### The library -/

theorem stringArgument_zero_eq_ok {vs : List Value} {cs : List Char}
    (h : stringArgument vs 0 = .ok cs) : ∃ s others, vs = .string s :: others ∧ cs = s.toList := by
  cases vs with
  | nil => cases h
  | cons v vs =>
      cases v with
      | string s =>
          cases h
          exact ⟨s, vs, rfl, rfl⟩
      | _ => cases h

theorem parseNumber_isNarrow (k : NumericKind) {vs : List Value}
    (htext : k = .char → ∀ s others c, vs = .string s :: others → c ∈ s.toList →
      invoke (.parseNumber k) vs none = .ok (.char c) → c.toNat ≤ 0xFFFF) :
    Ensures Value.IsNarrow (invoke (.parseNumber k) vs none) := by
  have heq : invoke (.parseNumber k) vs none =
      (stringArgument vs 0 >>= fun cs => parse (String.ofList cs) k) := rfl
  by_cases hk : k = .char
  · subst hk
    cases h : invoke (.parseNumber .char) vs none with
    | error => exact .error
    | ok v =>
        obtain ⟨cs, hcs, hv⟩ := bind_eq_ok (heq ▸ h)
        obtain ⟨s, others, rfl, rfl⟩ := stringArgument_zero_eq_ok hcs
        obtain ⟨c, hc, rfl⟩ := parse_char_eq_ok hv
        rw [String.toList_ofList] at hc
        exact .ok (htext rfl s others c rfl hc h)
  · rw [heq]
    exact (Ensures.trivial _).bind fun cs _ => (parse_hasType _ k).isNarrow hk

theorem convert_isNarrow (k : NumericKind) {vs : List Value}
    (htext : k = .char → ∀ s others c, vs = .string s :: others → c ∈ s.toList →
      invoke (.convert (.numeric k)) vs none = .ok (.char c) → c.toNat ≤ 0xFFFF) :
    Ensures Value.IsNarrow (invoke (.convert (.numeric k)) vs none) := by
  have heq : invoke (.convert (.numeric k)) vs none =
      (argument vs 0 >>= fun v => convert v k) := rfl
  by_cases hk : k = .char
  · subst hk
    cases vs with
    | nil => exact .error
    | cons v vs =>
        cases v with
        | string s =>
            cases h : invoke (.convert (.numeric .char)) (.string s :: vs) none with
            | error => exact .error
            | ok v =>
                obtain ⟨c, hc, rfl⟩ := parse_char_eq_ok h
                exact .ok (htext rfl s vs c rfl hc h)
        | null => exact .ok (Nat.zero_le _)
        | number n => exact (convertNumber_char_isNarrow n).map fun _ hm => hm
        | _ => exact .error
  · rw [heq]
    exact (Ensures.trivial _).bind fun v _ => (convert_hasType v k).isNarrow hk

theorem producer_isNarrow {b : Builtin} (hb : b.isProducer = true) {vs : List Value}
    (htext : readsCharacter b = true → ∀ s others c, vs = .string s :: others → c ∈ s.toList →
      invoke b vs none = .ok (.char c) → c.toNat ≤ 0xFFFF) :
    Ensures Value.IsNarrow (invoke b vs none) := by
  cases b with
  | parseNumber k => exact parseNumber_isNarrow k fun hk => htext (decide_eq_true hk)
  | convert target =>
      cases target with
      | numeric k => exact convert_isNarrow k fun hk => htext (decide_eq_true hk)
      | _ => cases hb
  -- dates and spans
  | date | timeOfDay | offset | localDateTime | utcDateTime | spanFromTicks =>
      exact invoke_of_invokeNonNull (ensures_of_forall _ fun _ => trivial)
  | spanFrom unit =>
      exact invoke_of_invokeNonNull ((Ensures.trivial (doubleArgument vs 0)).bind fun amount _ =>
        ensures_of_forall _ fun _ => trivial)
  | addTime unit =>
      exact invoke_of_invokeNonNull ((Ensures.trivial (doubleArgument vs 1)).bind fun amount _ =>
        (Ensures.trivial (spanOf amount unit)).bind fun s _ =>
          (Ensures.trivial (argument vs 0)).bind fun v _ => addToDate_isNarrow v s)
  | addTicks =>
      exact invoke_of_invokeNonNull ((Ensures.trivial (argument vs 0)).bind fun v _ =>
        (Ensures.trivial (int64Argument vs 1)).bind fun ticks _ => addToDate_isNarrow v _)
  | _ => cases hb

/-! ### Evaluation -/

/-- The value is no character, or one with a code of 16 bits. -/
def isNarrowScalar : Value → Bool
  | .number (.char c) => c.toNat ≤ 0xFFFF
  | .array _ | .record _ _ => false
  | _ => true

theorem isNarrow_of_isNarrowScalar {v : Value} (h : isNarrowScalar v = true) : v.IsNarrow := by
  cases v with
  | number n =>
      cases n with
      | char c =>
          have hc : c.toNat ≤ 0xFFFF := of_decide_eq_true h
          exact hc
      | _ => trivial
  | array | record => cases h
  | _ => trivial

theorem default_isNarrow (t : Ty) : t.default.IsNarrow := by
  cases t with
  | numeric k =>
      cases k with
      | char => exact Nat.zero_le _
      | _ => trivial
  | _ => trivial

theorem isNarrow_preserved :
    Preserved Value.IsNarrow fun part env => ∀ c, TakesCharacter env part c → c.toNat ≤ 0xFFFF where
  toOperable := isNarrow_operable
  default := default_isNarrow
  library hs h :=
    isNarrow_of_isNarrowScalar (Library.constant_of_all (by decide +kernel) hs h)
  literal h := h _ (.literal ..)
  item h hs hmem hc := h _ (.item hs hmem hc)
  producer hb h hargs _ := producer_isNarrow hb fun hreads s others c hvs hmem hc => by
    subst hvs
    refine h c (.reading hreads hargs hmem ?_)
    rw [evaluate, hargs]
    exact hc

/-! ### Codes -/

/-- The expression for a character, converted to its code and back. -/
def throughCode (part : Term) : Term :=
  (part.coerce (.numeric (.word .int32)) .int32).convert (.numeric .char false) .char

theorem convertTo_char {part : Term} (hty : part.ty = .char) (offset : Nat) :
    (do (← part.convertTo .int32 offset).convertTo .char offset) = .ok (throughCode part) := by
  have hcode : part.convertTo .int32 offset =
      .ok (part.coerce (.numeric (.word .int32)) .int32) := by
    rw [Term.convertTo, Term.coerceTo?, hty]
    rfl
  rw [hcode]
  rfl

theorem evaluate_throughCode {part : Term} {c : Char} (hc : evaluate part env = .ok (.char c)) :
    evaluate (throughCode part) env =
      (wrapInt (Word.wrap .int32 c.toNat).val .char).map Value.number := by
  have hcode : coerce (.numeric (.word .int32)) (.char c) =
      .ok (.number (.word .int32 (.wrap .int32 c.toNat))) := rfl
  have hback (w : Word .int32) : convertBy (.numeric .char false) (.number (.word .int32 w)) =
      (wrapInt w.val .char).map Value.number := rfl
  rw [throughCode, evaluate, evaluate, hc, ok_bind, hcode, ok_bind, hback]

/-- The characters that come back from their codes are those with codes of 16 bits. -/
theorem evaluate_throughCode_iff {part : Term} {c : Char}
    (hc : evaluate part env = .ok (.char c)) :
    evaluate (throughCode part) env = .ok (.char c) ↔ c.toNat ≤ 0xFFFF := by
  have hlt := char_toNat_lt c
  have hmin : Number.WordKind.int32.min ≤ c.toNat :=
    (Number.WordKind.min_le_zero .int32).trans (Int.natCast_nonneg _)
  have hmax : (c.toNat : Int) ≤ Number.WordKind.int32.max := char_le_max rfl (Or.inr nofun)
  rw [evaluate_throughCode hc, Word.wrap_val ⟨c.toNat, hmin, hmax⟩]
  constructor
  · intro h
    obtain ⟨n, hn, hnumber⟩ := map_eq_ok h
    cases hnumber
    exact (wrapInt_char_isNarrow _).of_eq_ok hn
  · intro h
    rw [wrapInt_char h]
    rfl

end Eval

namespace Stage

open Eval

variable {catalog : Catalog} {text : String} {input : Ty} {s : Stage} {element : Value}

/-- Whatever a stage comes to on the way from an element whose characters have codes of 16 bits has
only such characters, unless some part of its expression takes another one over from a text.  And it
is these characters that come back from their codes. -/
theorem evaluate_isNarrow (hc : catalog.Composed) (h : build catalog text input = .ok s)
    (he : element.IsNarrow) :
    ((∀ part env v, Meets s.term [element] part env → evaluate part env = .ok v → v.IsNarrow) ∨
      ∃ part env c, Meets s.term [element] part env ∧ TakesCharacter env part c ∧
        0xFFFF < c.toNat) ∧
    ∀ part : Term, part.ty = .char → ∀ offset,
      ∃ t, (do (← part.convertTo .int32 offset).convertTo .char offset) = .ok t ∧
        ∀ env c, evaluate part env = .ok (.char c) →
          (evaluate t env = .ok (.char c) ↔ c.toNat ≤ 0xFFFF) := by
  refine ⟨?_, fun part hty offset =>
    ⟨throughCode part, convertTo_char hty offset, fun _ _ => evaluate_throughCode_iff⟩⟩
  by_cases hwide : ∃ part env c, Meets s.term [element] part env ∧ TakesCharacter env part c ∧
      0xFFFF < c.toNat
  · exact Or.inr hwide
  · refine Or.inl fun part env v hpart hv => ?_
    have hallowed (part : Term) (env : List Value) (hmeets : Meets s.term [element] part env)
        (c : Char) (htakes : TakesCharacter env part c) : c.toNat ≤ 0xFFFF :=
      Nat.le_of_not_lt fun hlt => hwide ⟨part, env, c, hmeets, htakes, hlt⟩
    exact (evaluate_ensures isNarrow_preserved hc h he hallowed hpart).of_eq_ok hv

/-- The first letters of the words of an array. -/
theorem evaluate_isNarrow_firstLetters :
    ∃ s, build .standard "it.Select(w => w[0])" (.array .string) = .ok s ∧
      ((∀ part env v, Meets s.term [.array [.string "Ada"]] part env → evaluate part env = .ok v →
          v.IsNarrow) ∨
        ∃ part env c, Meets s.term [.array [.string "Ada"]] part env ∧ TakesCharacter env part c ∧
          0xFFFF < c.toNat) := by
  obtain ⟨s, v, hs, -, -⟩ : ∃ s v, build .standard "it.Select(w => w[0])" (.array .string) = .ok s ∧
      s.run (.array [.string "Ada"]) = .ok v ∧ true = true :=
    exists_run (by decide +kernel)
  have he : (Value.array [.string "Ada"]).IsNarrow := ⟨trivial, trivial⟩
  exact ⟨s, hs, (evaluate_isNarrow .standard hs he).1⟩

/-- The value is a character with a code of more than 16 bits. -/
def isWide : Value → Bool
  | .number (.char c) => 0xFFFF < c.toNat
  | _ => false

theorem not_isNarrow_of_isWide {v : Value} (h : isWide v = true) : ¬v.IsNarrow := by
  unfold isWide at h
  split at h
  · exact Nat.not_le_of_lt (of_decide_eq_true h)
  · cases h

theorem exists_wide
    (h : (build catalog text input).toOption.any (fun s =>
      (s.run element).toOption.any isWide) = true) :
    ∃ s v, build catalog text input = .ok s ∧ s.run element = .ok v ∧ ¬v.IsNarrow := by
  obtain ⟨s, v, hs, hv, hwide⟩ := exists_run h
  exact ⟨s, v, hs, hv, not_isNarrow_of_isWide hwide⟩

/-- The value is the truth value `false`. -/
def isFalse : Value → Bool
  | .boolean b => !b
  | _ => false

theorem eq_of_isFalse {v : Value} (h : isFalse v = true) : v = .boolean false := by
  cases v with
  | boolean b =>
      cases b with
      | true => cases h
      | false => rfl
  | _ => cases h

/-- A grinning face, which has a code of 17 bits. -/
def face : Char :=
  Char.ofNat 0x1F600

/-- All three ways to take a character over from a text are open, and the character that comes back
from its code is another one then. -/
theorem evaluate_face :
    (∃ s v, build .standard "it[0]" .string = .ok s ∧
      s.run (.string (String.ofList [face])) = .ok v ∧ ¬v.IsNarrow) ∧
    (∃ s v, build .standard (String.ofList ['\'', face, '\'']) .int32 = .ok s ∧
      s.run (.int32 (.wrap .int32 1)) = .ok v ∧ ¬v.IsNarrow) ∧
    (∃ s v, build .standard "Convert.ToChar(it)" .string = .ok s ∧
      s.run (.string (String.ofList [face])) = .ok v ∧ ¬v.IsNarrow) ∧
    (∃ s, build .standard "char(int(it[0])) == it[0]" .string = .ok s ∧
      s.run (.string (String.ofList [face])) = .ok (.boolean false)) ∧
    (Value.string (String.ofList [face])).IsNarrow ∧
    (Value.int32 (.wrap .int32 1)).IsNarrow := by
  refine ⟨exists_wide (by decide +kernel), exists_wide (by decide +kernel),
    exists_wide (by decide +kernel), ?_, trivial, trivial⟩
  obtain ⟨s, v, hs, hv, hfalse⟩ : ∃ s v,
      build .standard "char(int(it[0])) == it[0]" .string = .ok s ∧
      s.run (.string (String.ofList [face])) = .ok v ∧ isFalse v = true :=
    exists_run (by decide +kernel)
  exact ⟨s, hs, eq_of_isFalse hfalse ▸ hv⟩

end Stage

end Elementwise
