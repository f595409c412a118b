import Elementwise.Proofs.LetterCase.Lexer
import Elementwise.Proofs.Relabelling.Parser
import Elementwise.Proofs.Relabelling.Typing
import Elementwise.Stage

/-!
# Letter case does not change what a text means

Lowering the tokens of a text is a relabelling that keeps all offsets, so it lowers the names in the
expression and the text that an error quotes.  An expression and the expression in lower case get the
same typed expression, or fail at the same place for the same reason.  The spelling of a name enters
a type only with the members of record literals, which is why those are left out.  So two texts that
differ in letter case only have the same meaning or the same fault.
-/

namespace Elementwise

open Text

def Ident.lower (id : Ident) : Ident :=
  ⟨lowerAscii id.name, id.offset⟩

/-- The expression with its names in lower case. -/
abbrev Expr.lower (e : Expr) : Expr :=
  e.mapParts Ident.lower id

/-- The error with the text that it quotes in lower case. -/
def SyntaxError.lower : SyntaxError → SyntaxError
  | unexpectedToken found expected offset => unexpectedToken (lowerAscii found) expected offset
  | e => e

namespace Relabelling

def lowering : Relabelling where
  name := lowerAscii
  offset := id
  name_name := lowerAscii_lowerAscii
  offset_offset _ := rfl
  name_quoted s := by
    have happend : ∀ s t : String, lowerAscii (s ++ t) = lowerAscii s ++ lowerAscii t := by
      intro s t
      simp [lowerAscii, String.toList_append]
    simp only [happend, lowerAscii_lowerAscii]
  fold_name := fold_lowerAscii
  sameIgnoringAsciiCase_name := sameIgnoringAsciiCase_lowerAscii

theorem token_lowering : lowering.token = Token.lower := by
  funext t
  obtain ⟨lexeme, spelling, offset⟩ := t
  cases lexeme <;> rfl

theorem syntaxError_lowering : lowering.syntaxError = SyntaxError.lower := by
  funext e
  cases e <;> rfl

end Relabelling

theorem Expr.ofTokens_lower (ts : List Token) (stop : Nat) :
    Tracks SyntaxError.lower Expr.lower (Expr.ofTokens ts stop)
      (Expr.ofTokens (ts.map Token.lower) stop) := by
  rw [← Relabelling.token_lowering, ← Relabelling.syntaxError_lowering]
  exact Expr.ofTokens_relabel .lowering ts stop

/-- The error with the names that it quotes in lower case. -/
def TypeError.lower : TypeError → TypeError
  | unknownIdentifier name offset => unknownIdentifier (lowerAscii name) offset
  | unknownMember member type offset => unknownMember (lowerAscii member) type offset
  | wrongArity name expected found offset => wrongArity (lowerAscii name) expected found offset
  | noMatchingOverload name args offset => noMatchingOverload (lowerAscii name) args offset
  | ambiguousCall name args offset => ambiguousCall (lowerAscii name) args offset
  | duplicateMember name offset => duplicateMember (lowerAscii name) offset
  | typeUsedAsValue name offset => typeUsedAsValue (lowerAscii name) offset
  | e => e

theorem Relabelling.typeError_lowering : lowering.typeError = TypeError.lower := by
  funext e
  cases e <;> rfl

namespace Expr

mutual

theorem hasRecord_lower (e : Expr) : e.lower.hasRecord = e.hasRecord := by
  cases e with
  | literal l | null | it offset | identifier id => rfl
  | member object name => exact hasRecord_lower object
  | index object args offset | call object args offset =>
      exact congrArg₂ or (hasRecord_lower object) (anyHasRecord_lower args)
  | nullableConversion target args => exact anyHasRecord_lower args
  | unary op operand offset => exact hasRecord_lower operand
  | binary op left right offset =>
      exact congrArg₂ or (hasRecord_lower left) (hasRecord_lower right)
  | conditional c a b offset =>
      exact congrArg₂ or (congrArg₂ or (hasRecord_lower c) (hasRecord_lower a)) (hasRecord_lower b)
  | nullPropagation operand offset => exact hasRecord_lower operand
  | array elements offset => exact anyHasRecord_lower elements
  | record members offset => cases members <;> rfl
  | lambda param body => exact hasRecord_lower body

theorem anyHasRecord_lower (es : List Expr) :
    anyHasRecord (mapAll Ident.lower id es) = anyHasRecord es := by
  cases es with
  | nil => rfl
  | cons e es => exact congrArg₂ or (hasRecord_lower e) (anyHasRecord_lower es)

end

end Expr

theorem Typing.bind_lower (catalog : Catalog) (e : Expr) (h : e.hasRecord = false) (np : Bool)
    (scopes : List Scope) :
    Tracks TypeError.lower id (bind catalog e np scopes) (bind catalog e.lower np scopes) := by
  rw [← Relabelling.typeError_lowering]
  exact bind_relabel .lowering catalog e (.inl h) np scopes

/-- The error with the names and texts that it quotes in lower case.  The phase, the kind of the
error and its offset stay. -/
def BuildCause.lower : BuildCause → BuildCause
  | lexical e => lexical e.lower
  | syntactic e => syntactic e.lower
  | typing e => typing e.lower

theorem Token.scan_lowerOutsideLiterals (text : String) :
    LexedTracks (scan text) (scan (lowerOutsideLiterals text)) := by
  unfold scan
  rw [length_lowerOutsideLiterals, lowerOutsideLiterals, String.toList_ofList]
  exact scanFrom_lowerOutside (text.length + 1) 0 text.toList

theorem Expr.parse_lowerOutsideLiterals (text : String) :
    Tracks BuildCause.lower Expr.lower (parse text) (parse (lowerOutsideLiterals text)) := by
  obtain ⟨htokens, houtcome⟩ := Token.scan_lowerOutsideLiterals text
  have hstop : Tracks BuildCause.lower id ((Token.scan text).outcome.mapError .lexical)
      ((Token.scan (lowerOutsideLiterals text)).outcome.mapError .lexical) :=
    houtcome.mapError fun _ => rfl
  unfold parse
  simp only [htokens]
  apply hstop.bind
  intro stop
  exact (Expr.ofTokens_lower (Token.scan text).tokens stop).mapError fun _ => rfl

/-- The expression that the text spells, if it spells one, has no record literal with members. -/
def Expr.NoRecord (text : String) : Prop :=
  ∀ e, Expr.parse text = .ok e → e.hasRecord = false

theorem Expr.noRecord_lowerOutsideLiterals (text : String) :
    NoRecord (lowerOutsideLiterals text) ↔ NoRecord text := by
  have hparse := parse_lowerOutsideLiterals text
  unfold NoRecord
  generalize parse text = o, parse (lowerOutsideLiterals text) = o' at hparse ⊢
  cases hparse with
  | error h => exact ⟨nofun, nofun⟩
  | ok e => simp [hasRecord_lower]

namespace Term

theorem parse_lowerOutsideLiterals (catalog : Catalog) {text : String} (h : Expr.NoRecord text)
    (input : Ty) :
    Tracks BuildCause.lower id (parse catalog text input)
      (parse catalog (lowerOutsideLiterals text) input) := by
  have hparse := Expr.parse_lowerOutsideLiterals text
  unfold Expr.NoRecord at h
  unfold parse
  generalize Expr.parse text = o, Expr.parse (lowerOutsideLiterals text) = o' at h hparse ⊢
  cases hparse with
  | error hcause => exact .error hcause
  | ok e =>
      have hbind := Typing.bind_lower catalog e (h e rfl) false [⟨Typing.itKey, input⟩]
      exact hbind.mapError fun _ => rfl

/-- Texts that differ in the case of ASCII letters outside of literals have the same typed
expression for every type of inputs, or are both refused, in the same phase and with the same error
at the same offset: all that may differ is the spelling of the names that the errors quote. -/
theorem parse_of_sameOutsideLiterals (catalog : Catalog) {text text' : String}
    (hsame : SameOutsideLiterals text text') (h : Expr.NoRecord text) (input : Ty) :
    (parse catalog text input).mapError BuildCause.lower =
      (parse catalog text' input).mapError BuildCause.lower := by
  have h' : Expr.NoRecord text' := by
    rw [← Expr.noRecord_lowerOutsideLiterals, ← hsame, Expr.noRecord_lowerOutsideLiterals]
    exact h
  have htext := (parse_lowerOutsideLiterals catalog h input).mapError_eq
  have htext' := (parse_lowerOutsideLiterals catalog h' input).mapError_eq
  rw [← htext, ← htext', hsame]

theorem parse_of_sameOutsideLiterals_startsWith :
    SameOutsideLiterals "it.StartsWith(\"Ab\") ? 0xFF : 1E3" "IT.startswith(\"Ab\") ? 0XfF : 1e3" ∧
      (parse .standard "it.StartsWith(\"Ab\") ? 0xFF : 1E3" .string).toOption.isSome = true ∧
      (parse .standard "it.StartsWith(\"Ab\") ? 0xFF : 1E3" .string).mapError BuildCause.lower =
        (parse .standard "IT.startswith(\"Ab\") ? 0XfF : 1e3" .string).mapError
          BuildCause.lower := by
  have hsame : SameOutsideLiterals "it.StartsWith(\"Ab\") ? 0xFF : 1E3"
      "IT.startswith(\"Ab\") ? 0XfF : 1e3" := by
    unfold SameOutsideLiterals
    decide +kernel
  have hrecord : Expr.NoRecord "it.StartsWith(\"Ab\") ? 0xFF : 1E3" := by
    intro e he
    have hnone : ((Expr.parse "it.StartsWith(\"Ab\") ? 0xFF : 1E3").toOption.all
        fun e => !e.hasRecord) = true := by
      decide +kernel
    rw [he] at hnone
    exact (Bool.not_eq_true' _).mp hnone
  refine ⟨hsame, ?_, parse_of_sameOutsideLiterals .standard hsame hrecord .string⟩
  decide +kernel

end Term

end Elementwise
