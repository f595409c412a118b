import Elementwise.Proofs.Layout.Lexer
import Elementwise.Proofs.Relabelling.Typing
import Elementwise.Proofs.Syntax.Rendering
import Elementwise.Stage

/-!
White space between tokens does not change what a text means.  Texts with the same tokens differ in
the offsets of these, and the phases follow each other on a text and on its tokens without offsets.
-/

namespace Elementwise

namespace Relabelling

/-- All tokens stand at the same place. -/
def unplaced : Relabelling where
  name := id
  offset _ := 0
  name_name _ := rfl
  offset_offset _ := rfl
  name_quoted _ := rfl
  fold_name _ := rfl
  sameIgnoringAsciiCase_name _ _ := rfl

theorem unplaced_token (t : Token) : unplaced.token t = ⟨t.content.1, t.content.2, 0⟩ := by
  obtain ⟨lexeme, spelling, offset⟩ := t
  cases lexeme <;> rfl

theorem map_unplaced_token {ts ts' : List Token}
    (h : ts'.map Token.content = ts.map Token.content) :
    ts'.map unplaced.token = ts.map unplaced.token := by
  have hmap : ∀ ts : List Token, ts.map unplaced.token =
      (ts.map Token.content).map fun c => ⟨c.1, c.2, 0⟩ := fun ts => by
    rw [List.map_map]
    exact List.map_congr_left fun t _ => unplaced_token t
  rw [hmap, hmap, h]

end Relabelling

open Relabelling (unplaced)

/-- The error without the offset that it tells; the rest of it stays. -/
def BuildCause.eraseOffset : BuildCause → BuildCause
  | lexical e => lexical e
  | syntactic e => syntactic (unplaced.syntaxError e)
  | typing e => typing (unplaced.typeError e)

/-- The expression that tokens spell without their offsets. -/
def Expr.ofUnplaced (ts : List Token) : Except BuildCause Expr :=
  (Expr.ofTokens (ts.map unplaced.token) 0).mapError .syntactic

theorem Expr.parse_unplaced {text : String} {stop : Nat}
    (h : (Token.scan text).outcome = .ok stop) :
    Tracks BuildCause.eraseOffset Expr.eraseOffsets (parse text)
      (ofUnplaced (Token.scan text).tokens) := by
  unfold parse
  simp only [h]
  exact (ofTokens_relabel unplaced _ stop).mapError fun _ => rfl

namespace Term

theorem parse_unplaced (catalog : Catalog) {text : String} {stop : Nat}
    (h : (Token.scan text).outcome = .ok stop) (input : Ty) :
    Tracks BuildCause.eraseOffset id (parse catalog text input)
      (Expr.ofUnplaced (Token.scan text).tokens >>= fun e =>
        (Typing.bindInput catalog e input).mapError .typing) := by
  apply (Expr.parse_unplaced h).bind
  intro e
  have hbind := Typing.bind_relabel unplaced catalog e (.inr fun _ => rfl) false
    [⟨Typing.itKey, input⟩]
  exact hbind.mapError fun _ => rfl

/-- A text that is written with other white space between its tokens has the same tokens, spells the
same expression, and has the same typed expression for every type of inputs, or is refused for the
same reason: only the offsets differ. -/
theorem parse_of_respaced (catalog : Catalog) {text text' : String}
    (h : Token.Respaced text text') :
    ((Token.scan text').tokens.map Token.content = (Token.scan text).tokens.map Token.content ∧
        ∃ stop, (Token.scan text').outcome = .ok stop) ∧
      ((Expr.parse text').map Expr.eraseOffsets).mapError BuildCause.eraseOffset =
        ((Expr.parse text).map Expr.eraseOffsets).mapError BuildCause.eraseOffset ∧
      ∀ input, (parse catalog text' input).mapError BuildCause.eraseOffset =
        (parse catalog text input).mapError BuildCause.eraseOffset := by
  obtain ⟨stop, hstop⟩ := h.1
  obtain ⟨hcontent, stop', hstop'⟩ := Token.scan_of_respaced h
  have htokens : Expr.ofUnplaced (Token.scan text').tokens =
      Expr.ofUnplaced (Token.scan text).tokens := by
    rw [Expr.ofUnplaced, Relabelling.map_unplaced_token hcontent, Expr.ofUnplaced]
  refine ⟨⟨hcontent, stop', hstop'⟩, ?_, fun input => ?_⟩
  · have hparse' := (Expr.parse_unplaced hstop').map_mapError_eq
    rw [htokens] at hparse'
    exact hparse'.symm.trans (Expr.parse_unplaced hstop).map_mapError_eq
  · have hparse' := (parse_unplaced catalog hstop' input).mapError_eq
    rw [htokens] at hparse'
    exact hparse'.symm.trans (parse_unplaced catalog hstop input).mapError_eq

theorem parse_of_respaced_nullableConversion :
    Token.Respaced "long?(it)" "long ? (\n it )\t" ∧
      (parse .standard "long?(it)" .int32).toOption.isSome = true ∧
      ((Expr.parse "long ? (\n it )\t").map Expr.eraseOffsets).mapError BuildCause.eraseOffset =
        ((Expr.parse "long?(it)").map Expr.eraseOffsets).mapError BuildCause.eraseOffset ∧
      (parse .standard "long ? (\n it )\t" .int32).mapError BuildCause.eraseOffset =
        (parse .standard "long?(it)" .int32).mapError BuildCause.eraseOffset := by
  have hspellings : (Token.scan "long?(it)").tokens.map (·.spelling) =
      ["long", "?", "(", "it", ")"] := by
    decide +kernel
  have hstop : ∃ stop, (Token.scan "long?(it)").outcome = .ok stop := ⟨9, by decide +kernel⟩
  have hspaced : Token.Spaced ["long", "?", "(", "it", ")"] "long ? (\n it )\t".toList := by
    have hspace : ∀ blank : List Char, blank.all Text.isSpace = true →
        ∀ c ∈ blank, Text.isSpace c = true :=
      fun _ => List.all_eq_true.1
    refine .word [] "long" (hspace _ (by decide)) ?_
      (.word [' '] "?" (hspace _ (by decide)) ?_
        (.word [' '] "(" (hspace _ (by decide)) ?_
          (.word ['\n', ' '] "it" (hspace _ (by decide)) ?_
            (.word [' '] ")" (hspace _ (by decide)) ?_
              (.finish ['\t'] (hspace _ (by decide)))))))
    all_goals
      rintro c ⟨⟩
      decide
  have hrespaced : Token.Respaced "long?(it)" "long ? (\n it )\t" :=
    ⟨hstop, hspellings ▸ hspaced⟩
  obtain ⟨-, hparse, hterm⟩ := parse_of_respaced .standard hrespaced
  exact ⟨hrespaced, by decide +kernel, hparse, hterm .int32⟩

end Term

end Elementwise
