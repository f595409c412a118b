import Elementwise.Proofs.Command.Lines

/-!
A stream is checking, line by line.  Every line that is not blank is checked as if it were the whole
input: where that succeeds its result is written, and where it fails a diagnostic with the number of
the line.  Ending at the first failure is the same as giving the text up to that line only.
-/

namespace Elementwise.Command

variable {expression inputType text : String} {s : Stage} {ls : List String}

/-! ### Judging lines -/

/-- What checking a line prints, where the line is the whole input. -/
def checkLine (expression inputType line : String) : Except CommandError String :=
  (check expression inputType (some line)).map fun (_, v) => v.json.print

section Judge

variable (judge : String → Except CommandError String)

/-- What is printed for the lines that are not blank, where they are accepted. -/
def accepted (ls : List String) : List String :=
  (ls.filter fun line => !isBlank line).filterMap fun line => (judge line).toOption

/-- The diagnostic of a line with its number, if it is not blank and refused. -/
def refusal? (line : String) (number : Nat) : Option String :=
  if isBlank line then none
  else
    match judge line with
    | .ok _ => none
    | .error e => some (diagnostic number e)

/-- The diagnostics of the lines, of which the first has the given number; blank lines count. -/
def refused (number : Nat) (ls : List String) : List String :=
  (ls.zipIdx number).filterMap fun entry => refusal? judge entry.1 entry.2

def fails (line : String) : Bool :=
  !isBlank line && (judge line).toOption.isNone

variable {judge} {line : String}

theorem fails_of_isBlank (h : isBlank line = true) : fails judge line = false := by
  rw [fails, h]
  rfl

theorem fails_of_ok {printed : String} (hj : judge line = .ok printed) :
    fails judge line = false := by
  rw [fails, hj]
  exact Bool.and_false _

theorem fails_of_error {e : CommandError} (h : isBlank line = false) (hj : judge line = .error e) :
    fails judge line = true := by
  rw [fails, h, hj]
  rfl

variable (number : Nat) (others : List String)

theorem accepted_of_isBlank (h : isBlank line = true) :
    accepted judge (line :: others) = accepted judge others := by
  rw [accepted, List.filter_cons_of_neg (by simp [h]), ← accepted]

theorem accepted_of_ok {printed : String} (h : isBlank line = false)
    (hj : judge line = .ok printed) :
    accepted judge (line :: others) = printed :: accepted judge others := by
  rw [accepted, List.filter_cons_of_pos (by simp [h]), List.filterMap_cons, hj]
  rfl

theorem accepted_of_error {e : CommandError} (h : isBlank line = false)
    (hj : judge line = .error e) : accepted judge (line :: others) = accepted judge others := by
  rw [accepted, List.filter_cons_of_pos (by simp [h]), List.filterMap_cons, hj]
  rfl

theorem refused_of_isBlank (h : isBlank line = true) :
    refused judge number (line :: others) = refused judge (number + 1) others := by
  have hnone : refusal? judge line number = none := by rw [refusal?, if_pos h]
  rw [refused, List.zipIdx_cons]
  exact List.filterMap_cons_none hnone

theorem refused_of_ok {printed : String} (hj : judge line = .ok printed) :
    refused judge number (line :: others) = refused judge (number + 1) others := by
  have hnone : refusal? judge line number = none := by rw [refusal?, hj, ite_self]
  rw [refused, List.zipIdx_cons]
  exact List.filterMap_cons_none hnone

theorem refused_of_error {e : CommandError} (h : isBlank line = false)
    (hj : judge line = .error e) :
    refused judge number (line :: others) =
      diagnostic number e :: refused judge (number + 1) others := by
  have hsome : refusal? judge line number = some (diagnostic number e) := by
    rw [refusal?, h, hj]
    rfl
  rw [refused, List.zipIdx_cons]
  exact List.filterMap_cons_some hsome

/-- Every line that is not blank is either accepted or refused. -/
theorem length_accepted_add_refused (ls : List String) :
    (accepted judge ls).length + (refused judge number ls).length =
      (ls.filter fun line => !isBlank line).length := by
  induction ls generalizing number with
  | nil => rfl
  | cons line others ih =>
      have ih := ih (number + 1)
      cases hblank : isBlank line with
      | true =>
          rw [accepted_of_isBlank others hblank, refused_of_isBlank number others hblank, ih,
            List.filter_cons_of_neg (by simp [hblank])]
      | false =>
          rw [List.filter_cons_of_pos (by simp [hblank]), List.length_cons]
          cases hj : judge line with
          | ok printed =>
              rw [accepted_of_ok others hblank hj, refused_of_ok number others hj,
                List.length_cons]
              omega
          | error e =>
              rw [accepted_of_error others hblank hj, refused_of_error number others hblank hj,
                List.length_cons]
              omega

theorem length_refused (ls : List String) :
    (refused judge number ls).length = (ls.filter (fails judge)).length := by
  induction ls generalizing number with
  | nil => rfl
  | cons line others ih =>
      have ih := ih (number + 1)
      cases hblank : isBlank line with
      | true =>
          rw [refused_of_isBlank number others hblank, ih,
            List.filter_cons_of_neg (by simp [fails_of_isBlank hblank])]
      | false =>
          cases hj : judge line with
          | ok printed =>
              rw [refused_of_ok number others hj, ih,
                List.filter_cons_of_neg (by simp [fails_of_ok hj])]
          | error e =>
              rw [refused_of_error number others hblank hj, List.length_cons, ih,
                List.filter_cons_of_pos (fails_of_error hblank hj), List.length_cons]

end Judge

/-! ### Runs over lines -/

/-- What a stage prints for a line. -/
def Report.judgement (s : Stage) (line : String) : Except CommandError String :=
  (evaluateText s line).map fun v => v.json.print

open Report (judgement)

section Step

variable {number : Nat} {failFast : Bool} {line : String} (others : List String)

theorem streamLines_of_isBlank (h : isBlank line = true) :
    streamLines s failFast number (line :: others) =
      streamLines s failFast (number + 1) others := by
  rw [streamLines, if_pos h]

theorem streamLines_of_ok {printed : String} (h : isBlank line = false)
    (hj : judgement s line = .ok printed) :
    streamLines s failFast number (line :: others) =
      let rest := streamLines s failFast (number + 1) others
      { rest with results := printed :: rest.results } := by
  rw [streamLines, h, if_neg Bool.false_ne_true]
  cases he : evaluateText s line with
  | ok v =>
      rw [judgement, he] at hj
      cases hj
      rfl
  | error e =>
      rw [judgement, he] at hj
      cases hj

theorem streamLines_of_error {e : CommandError} (h : isBlank line = false)
    (hj : judgement s line = .error e) :
    streamLines s failFast number (line :: others) =
      let rest := if failFast then .empty else streamLines s failFast (number + 1) others
      { rest with diagnostics := diagnostic number e :: rest.diagnostics } := by
  rw [streamLines, h, if_neg Bool.false_ne_true]
  cases he : evaluateText s line with
  | ok v =>
      rw [judgement, he] at hj
      cases hj
  | error e =>
      rw [judgement, he] at hj
      cases hj
      rfl

end Step

/-- A run to the end reports on every line. -/
theorem streamLines_eq (s : Stage) (number : Nat) (ls : List String) :
    streamLines s false number ls =
      ⟨accepted (judgement s) ls, refused (judgement s) number ls⟩ := by
  induction ls generalizing number with
  | nil => rfl
  | cons line others ih =>
      cases hblank : isBlank line with
      | true =>
          rw [streamLines_of_isBlank others hblank, ih, accepted_of_isBlank others hblank,
            refused_of_isBlank number others hblank]
      | false =>
          cases hj : judgement s line with
          | ok printed =>
              rw [streamLines_of_ok others hblank hj, ih, accepted_of_ok others hblank hj,
                refused_of_ok number others hj]
          | error e =>
              rw [streamLines_of_error others hblank hj, if_neg Bool.false_ne_true, ih,
                accepted_of_error others hblank hj, refused_of_error number others hblank hj]

/-- A run that ends at the first failure is a run to the end of the lines up to that one. -/
theorem streamLines_failFast (s : Stage) (number : Nat) (ls : List String) :
    streamLines s true number ls =
      streamLines s false number (throughFirst (fails (judgement s)) ls) := by
  induction ls generalizing number with
  | nil => rfl
  | cons line others ih =>
      cases hblank : isBlank line with
      | true =>
          rw [throughFirst, fails_of_isBlank hblank, if_neg Bool.false_ne_true,
            streamLines_of_isBlank _ hblank, streamLines_of_isBlank _ hblank, ih]
      | false =>
          cases hj : judgement s line with
          | ok printed =>
              rw [throughFirst, fails_of_ok hj, if_neg Bool.false_ne_true,
                streamLines_of_ok _ hblank hj, streamLines_of_ok _ hblank hj, ih]
          | error e =>
              rw [throughFirst, fails_of_error hblank hj, if_pos rfl,
                streamLines_of_error _ hblank hj, streamLines_of_error _ hblank hj]
              rfl

/-! ### Streams -/

theorem checkLine_of_build (hs : buildStage expression inputType = .ok s) (line : String) :
    checkLine expression inputType line = judgement s line := by
  rw [checkLine, check, hs, judgement]
  show ((evaluateText s line).map (s.output, ·)).map _ = _
  cases evaluateText s line <;> rfl

theorem stream_of_build (hs : buildStage expression inputType = .ok s) (failFast : Bool)
    (hl : Lined text.toList (ls.map String.toList)) :
    stream expression inputType failFast text = .ok (streamLines s failFast 1 ls) := by
  rw [stream, hs, hl.lines_eq]
  rfl

theorem throughFirst_map {α β : Type} (f : α → β) (p : β → Bool) (xs : List α) :
    throughFirst p (xs.map f) = (throughFirst (fun x => p (f x)) xs).map f := by
  induction xs with
  | nil => rfl
  | cons x xs ih =>
      rw [List.map_cons, throughFirst, throughFirst, ih]
      split <;> rfl

/-- A stream accepts and refuses the lines that checking them one by one does; ending at the first
failure, it is a stream of the text up to the line that fails. -/
theorem stream_eq_check (hs : buildStage expression inputType = .ok s)
    (hl : Lined text.toList (ls.map String.toList)) :
    (∃ r, stream expression inputType false text = .ok r ∧
        r.results = accepted (checkLine expression inputType) ls ∧
        r.diagnostics = refused (checkLine expression inputType) 1 ls ∧
        r.processed = (ls.filter fun line => !isBlank line).length ∧
        r.faulted = (ls.filter (fails (checkLine expression inputType))).length) ∧
      ∃ front : String, front.toList <+: text.toList ∧
        Lined front.toList
          ((throughFirst (fails (checkLine expression inputType)) ls).map String.toList) ∧
        stream expression inputType true text = stream expression inputType false front := by
  have hjudge : checkLine expression inputType = judgement s := funext (checkLine_of_build hs)
  rw [hjudge]
  refine ⟨⟨_, stream_of_build hs false hl, ?_⟩, ?_⟩
  · rw [streamLines_eq]
    exact ⟨rfl, rfl, length_accepted_add_refused 1 ls, length_refused 1 ls⟩
  -- the text up to the first failure, whose lines are characters here and strings in a run
  obtain ⟨front, hfront, hlined⟩ :=
    hl.exists_throughFirst fun line => fails (judgement s) (String.ofList line)
  rw [throughFirst_map] at hlined
  simp only [String.ofList_toList] at hlined
  have hlined' : Lined (String.ofList front).toList
      ((throughFirst (fails (judgement s)) ls).map String.toList) := by
    rwa [String.toList_ofList]
  refine ⟨String.ofList front, ?_, hlined', ?_⟩
  · rwa [String.toList_ofList]
  · rw [stream_of_build hs true hl, stream_of_build hs false hlined', streamLines_failFast]

theorem stream_eq_check_quotients :
    (∃ s, buildStage "10 / it" "int" = .ok s) ∧
      Lined "5\n \r\n0\r\nnope\n2".toList (["5", " ", "0", "nope", "2"].map String.toList) ∧
      (∃ r, stream "10 / it" "int" false "5\n \r\n0\r\nnope\n2" = .ok r ∧
        r.results = ["2", "5"] ∧
        r.diagnostics =
          ["line 3: evaluation fault: division by zero", "line 4: invalid JSON"] ∧
        r.processed = 4 ∧ r.faulted = 2) ∧
      ∃ front : String, front.toList <+: "5\n \r\n0\r\nnope\n2".toList ∧
        Lined front.toList (["5", " ", "0"].map String.toList) ∧
        stream "10 / it" "int" true "5\n \r\n0\r\nnope\n2" =
          stream "10 / it" "int" false front := by
  have hlined : Lined "5\n \r\n0\r\nnope\n2".toList
      (["5", " ", "0", "nope", "2"].map String.toList) := by
    have h := lined_lines "5\n \r\n0\r\nnope\n2"
    rwa [show lines "5\n \r\n0\r\nnope\n2" = ["5", " ", "0", "nope", "2"] by decide +kernel] at h
  have haccepted : accepted (checkLine "10 / it" "int") ["5", " ", "0", "nope", "2"] =
      ["2", "5"] := by decide +kernel
  have hrefused : refused (checkLine "10 / it" "int") 1 ["5", " ", "0", "nope", "2"] =
      ["line 3: evaluation fault: division by zero", "line 4: invalid JSON"] := by decide +kernel
  have hfirst : throughFirst (fails (checkLine "10 / it" "int")) ["5", " ", "0", "nope", "2"] =
      ["5", " ", "0"] := by decide +kernel
  have hok : (buildStage "10 / it" "int").toOption.isSome = true := by decide +kernel
  cases hs : buildStage "10 / it" "int" with
  | error e =>
      rw [hs] at hok
      cases hok
  | ok s =>
      obtain ⟨⟨r, hr, hresults, hdiagnostics, hprocessed, hfaulted⟩, front, hfront⟩ :=
        stream_eq_check hs hlined
      rw [haccepted] at hresults
      rw [hrefused] at hdiagnostics
      rw [hfirst] at hfront
      have hcount : (["5", " ", "0", "nope", "2"].filter fun line => !isBlank line).length = 4 := by
        decide +kernel
      have hfails : (["5", " ", "0", "nope", "2"].filter
          (fails (checkLine "10 / it" "int"))).length = 2 := by decide +kernel
      exact ⟨⟨s, rfl⟩, hlined, ⟨r, hr, hresults, hdiagnostics, hprocessed.trans hcount,
        hfaulted.trans hfails⟩, front, hfront⟩

end Elementwise.Command
