import Elementwise.Proofs.Command.Stream
import Elementwise.Proofs.Framing.Fault
import Elementwise.Proofs.Hereditary.Binding
import Elementwise.Proofs.Value.Decoding

/-!
The diagnostics of a stream, one for each element that fails.  Whatever the expression and the element,
the message is one line, with one exception: a fault quotes the text that it could not read as it is,
and a line feed in that text ends the line of the diagnostic in the middle.
-/

namespace Elementwise

open Number (NumericKind)

/-! ### Types -/

/-- Types that symbols of the library convert to are no records, which alone bring names in. -/
theorem Library.oneLine_target {s : LibrarySymbol} {t : Ty} (hs : s ∈ Library.standard)
    (h : s.target? = some t) : OneLine t.name ∧ OneLine t.asNullable.name := by
  have hall : (Library.standard.all fun s => s.target?.all fun t =>
      !t.name.toList.contains '\n' && !t.asNullable.name.toList.contains '\n') = true := rfl
  have hs := List.all_eq_true.1 hall s hs
  rw [h] at hs
  simpa [OneLine] using hs

theorem Ty.IsTarget.oneLine {t : Ty} (h : t.IsTarget) : OneLine t.name := by
  obtain ⟨s, hs, target, htarget, rfl | rfl⟩ := h
  · exact (Library.oneLine_target hs htarget).1
  · exact (Library.oneLine_target hs htarget).2

theorem Ty.oneLine_nullable {t : Ty} : OneLine (Ty.nullable t).name ↔ OneLine t.name :=
  ⟨fun h => (oneLine_append_iff.1 (oneLine_append_iff.1 h).1).2,
    fun h => .append (.append (by simp [OneLine]) h) (by simp [OneLine])⟩

theorem Ty.oneLine_array {t : Ty} : OneLine (Ty.array t).name ↔ OneLine t.name :=
  ⟨fun h => (oneLine_append_iff.1 h).1, fun h => h.append (by simp [OneLine])⟩

theorem Ty.oneLine_of_sequence {t : Ty} (h : OneLine (Ty.sequence t).name) : OneLine t.name :=
  (oneLine_append_iff.1 (oneLine_append_iff.1 h).1).2

namespace Catalog

theorem oneLine_of_resolveType {c : Catalog} (hc : c.Composed) {name : String} {t : Ty}
    (h : c.resolveType name = some t) : OneLine t.name := by
  refine resolveReversed_induction (P := fun _ t => OneLine t.name) ?_ ?_ ?_ ?_ h
  · exact fun cs s t hs ht => (Library.oneLine_target (hc.lookup_mem hs) ht).1
  · exact fun cs t => Ty.oneLine_array.2
  · exact fun cs t _ => Ty.oneLine_nullable.2
  · exact fun ch cs t _ ht => ht

end Catalog

/-! ### Documents -/

theorem Json.oneLine_kindName (j : Json) : OneLine j.kindName := by
  cases j <;> simp [Json.kindName, OneLine]

theorem Mismatch.oneLine_message {m : Mismatch} (ht : OneLine m.expected.name)
    (h : OneLine m.found) : OneLine m.message :=
  .append (.append (.append (by simp [OneLine]) h) (by simp [OneLine])) ht

theorem Mismatch.oneLine_ofJson (j : Json) {t : Ty} (ht : OneLine t.name) :
    OneLine (Mismatch.ofJson j t).message :=
  oneLine_message ht j.oneLine_kindName

namespace Value

/-- What is refused in a document is told in one line. -/
abbrev Refuses {α : Type} (o : Except Mismatch α) : Prop :=
  FailsOnly (fun m => OneLine m.message) o

theorem numberSource_refuses (j : Json) (k : NumericKind) : Refuses (numberSource j k) := by
  have hmismatch {α : Type} : Refuses (.error (.ofJson j (.numeric k)) : Except Mismatch α) :=
    .error (Mismatch.oneLine_ofJson j (oneLine_kind k))
  unfold numberSource
  dsimp only
  split
  · split
    · exact .ok
    · exact .ok
    · refine .ite ?_ (.ite hmismatch .ok)
      split
      · exact .ok
      · exact hmismatch
  · refine .ite hmismatch (.ite .ok (.ite .ok (.ite .ok ?_)))
    cases Eval.parse _ k with
    | ok v => exact .ok
    | error f => exact hmismatch
  · exact hmismatch

/-- The number that a document denotes is no text any more, so converting it quotes none. -/
theorem numberSource_ensures (j : Json) (k : NumericKind) :
    Ensures (fun v => ∃ n, v = .number n) (numberSource j k) := by
  unfold numberSource
  dsimp only
  split
  · split
    · exact .ok ⟨_, rfl⟩
    · exact .ok ⟨_, rfl⟩
    · split
      · split
        · exact .ok ⟨_, rfl⟩
        · exact .error
      · split
        · exact .error
        · exact .ok ⟨_, rfl⟩
  · split
    · exact .error
    split
    · exact .ok ⟨_, rfl⟩
    split
    · exact .ok ⟨_, rfl⟩
    split
    · exact .ok ⟨_, rfl⟩
    · have hparse := Eval.parse_hasType ‹String› k
      cases hv : Eval.parse ‹String› k with
      | error f => exact .error
      | ok v =>
          rw [hv] at hparse
          cases hparse with
          | ok h =>
              obtain ⟨n, rfl, -⟩ := hasType_numeric.1 h
              exact .ok ⟨n, rfl⟩
  · exact .error

theorem decodeNumber_refuses (j : Json) (k : NumericKind) : Refuses (decodeNumber j k) := by
  refine (numberSource_refuses j k).bind_ensured (numberSource_ensures j k) ?_
  rintro _ ⟨n, rfl⟩
  have hconvert : Eval.Terse (Eval.convert (.number n) k) := (Eval.convertNumber_terse n k).map _
  exact hconvert.mapError fun f hf => Mismatch.oneLine_message (oneLine_kind k) hf

theorem decode_refuses (t : Ty) (j : Json) (ht : OneLine t.name) : Refuses (decode t j) := by
  fun_cases decode t j with
  | case1 | case2 | case6 | case9 | case11 => exact .ok
  | case3 t => exact decode_refuses t j (Ty.oneLine_nullable.1 ht)
  | case4 t items =>
      exact (FailsOnly.mapM fun item _ => decode_refuses t item (Ty.oneLine_array.1 ht)).map _
  | case5 t items =>
      exact (FailsOnly.mapM fun item _ => decode_refuses t item (Ty.oneLine_of_sequence ht)).map _
  | case7 | case12 => exact .error (Mismatch.oneLine_ofJson j ht)
  | case8 k => exact decodeNumber_refuses j k
  | case10 => exact .error (Mismatch.oneLine_ofJson .null ht)
termination_by sizeOf t

end Value

/-! ### Evaluation -/

namespace Eval

/-- Whatever a typed expression faults with is contained. -/
theorem contained_hereditary : Hereditary fun t => ∀ env, Contained (evaluate t env) where
  null _ := .ok
  literal l _ := by
    cases l <;> exact .ok
  default _ _ := .ok
  library _ _ _ := .ok
  parameter depth _ env := by
    rw [evaluate]
    split
    · exact .ok
    · exact .error (.internal (.append (by simp [OneLine]) (oneLine_showNat depth)))
  coerce c _ h env := by
    rw [evaluate]
    exact (h env).bind fun _ => coerce_contained c _
  convert hc _ h env := by
    rw [evaluate]
    exact (h env).bind fun _ => convertBy_contained (fun t ht => (hc t ht).oneLine) _
  unary op lifted _ h env := by
    rw [evaluate]
    exact (h env).bind fun _ => .ite .ok (unary_contained op _)
  binary op lifted _ hl hr env := by
    rw [evaluate]
    refine (hl env).bind fun v => ?_
    split
    · exact .ok
    · exact hr env
    · exact .ok
    · exact hr env
    · exact (hr env).bind fun _ => binaryOn_contained _ _ _ _
  coalesce _ hl hr env := by
    rw [evaluate]
    refine (hl env).bind fun v => ?_
    split
    · exact hr env
    · exact .ok
  choice _ hc ht hf env := by
    rw [evaluate]
    refine (hc env).bind fun v => ?_
    split
    · exact ht env
    · exact hf env
    · exact contained_unexpected _ (by simp [OneLine])
  call b conditional _ h env := by
    rw [evaluate]
    refine (evaluateArguments_contained conditional fun a ha => h a ha env).bind fun values => ?_
    split
    · exact invoke_contained b _ none
    · exact .ok
  field i conditional _ h env := by
    rw [evaluate]
    exact (h env).bind fun _ => fieldOf_contained _ i conditional
  index conditional _ h hi env := by
    rw [evaluate]
    refine (h env).bind fun v => ?_
    split
    · exact .ite .ok (.error (.nullReference (by simp [OneLine])))
    · exact (hi env).bind fun _ => elementAt_contained _ _
  query conditional _ _ hs hb ha env := by
    rw [evaluate]
    refine (hs env).bind fun v => ?_
    split
    · exact .ok
    · refine (itemsOf_contained _ _).bind fun items => ?_
      refine (evaluateAll_contained fun a h => ha a h env).bind fun args => ?_
      split
      · refine query_contained _ _ ?_ _
        rintro _ ⟨⟩ item
        exact hb _ rfl (item :: env)
      · refine query_contained _ _ ?_ _
        rintro _ ⟨⟩
  array _ h env := by
    rw [evaluate]
    exact (evaluateAll_contained fun t ht => h t ht env).bind fun _ => .ok
  record fields h env := by
    rw [evaluate]
    exact (evaluateAll_contained fun t ht => h t ht env).bind fun _ => .ok

end Eval

/-! ### Commands -/

namespace Command

/-- The text of the element that the message of an error quotes. -/
def CommandError.quoted? : CommandError → Option String
  | fault f => f.quoted?
  | _ => none

/-- The message is one line if the text that it quotes is. -/
def CommandError.Contained (e : CommandError) : Prop :=
  (∀ input, e.quoted? = some input → OneLine input) → OneLine e.message

variable {expression inputType text : String} {s : Stage} {failFast : Bool} {r : Report}

theorem readElement_contained {t : Ty} (ht : OneLine t.name) (line : String) :
    FailsOnly CommandError.Contained (readElement t line) := by
  unfold readElement
  split
  · exact (Value.decode_refuses t _ ht).mapError fun m hm _ => hm
  · exact .error fun _ => (by simp [OneLine] : OneLine "invalid JSON")

theorem evaluateText_contained (hs : buildStage expression inputType = .ok s) (line : String) :
    FailsOnly CommandError.Contained (evaluateText s line) := by
  obtain ⟨input, hinput, hbuild⟩ := bind_eq_ok hs
  have htype : OneLine input.name := by
    unfold typeNamed at hinput
    split at hinput
    · rename_i t ht
      cases hinput
      exact Catalog.oneLine_of_resolveType .standard ht
    · cases hinput
  have hbuild : Stage.build .standard expression input = .ok s := by
    cases h : Stage.build .standard expression input with
    | error e =>
        rw [h] at hbuild
        cases hbuild
    | ok s' =>
        rw [h] at hbuild
        exact congrArg Except.ok (Except.ok.inj hbuild)
  obtain ⟨rfl, -⟩ := Stage.build_typed .standard hbuild
  refine (readElement_contained htype line).bind fun v => ?_
  have hprocess : Eval.Contained (s.process v) :=
    .ite (Stage.build_hereditary Eval.contained_hereditary .standard hbuild [v])
      (.error (.inputType htype (oneLine_kindName v)))
  exact hprocess.mapError fun f hf hquoted => .append (by simp [OneLine]) (hf hquoted)

/-- What a message quotes is in it as it is. -/
theorem CommandError.oneLine_quoted {e : CommandError} (h : OneLine e.message) {input : String}
    (hinput : e.quoted? = some input) : OneLine input := by
  cases e with
  | fault f =>
      cases f with
      | invalidFormat input' target =>
          cases hinput
          have hmessage := (oneLine_append_iff.1 h).2
          have hquoted := (oneLine_append_iff.1 (oneLine_append_iff.1 hmessage).1).1
          exact (oneLine_append_iff.1 hquoted).2
      | _ => cases hinput
  | _ => cases hinput

/-! ### Reports -/

/-- A text of so many lines `line N: message`, where the numbers increase. -/
def Framed (count : Nat) (text : String) : Prop :=
  ∃ entries : List (Nat × String), entries.length = count ∧
    entries.Pairwise (fun a b => a.1 < b.1) ∧ (∀ entry ∈ entries, OneLine entry.2) ∧
    text = Report.text (entries.map fun entry => "line " ++ showNat entry.1 ++ ": " ++ entry.2)

/-- The error of a line that is not blank and fails, after the number of the line. -/
def failure? (s : Stage) (entry : String × Nat) : Option (Nat × CommandError) :=
  if isBlank entry.1 then none
  else
    match evaluateText s entry.1 with
    | .ok _ => none
    | .error e => some (entry.2, e)

/-- The errors of the lines that fail, of which the first has the given number. -/
def failures (s : Stage) (number : Nat) (ls : List String) : List (Nat × CommandError) :=
  (ls.zipIdx number).filterMap (failure? s)

theorem count_text_cons (line : String) (ls : List String) :
    (Report.text (line :: ls)).toList.count '\n' =
      line.toList.count '\n' + 1 + (Report.text ls).toList.count '\n' := by
  have htext : (Report.text (line :: ls)).toList =
      line.toList ++ '\n' :: (Report.text ls).toList := by
    simp [Report.text, String.toList_join]
  rw [htext, List.count_append, List.count_cons_self]
  omega

theorem length_le_count_text (ls : List String) :
    ls.length ≤ (Report.text ls).toList.count '\n' := by
  induction ls with
  | nil => exact Nat.zero_le _
  | cons line ls ih =>
      rw [count_text_cons, List.length_cons]
      omega

/-- Lines have no line feeds of their own if the text has one for each of them. -/
theorem count_text_eq_length_iff {ls : List String} :
    (Report.text ls).toList.count '\n' = ls.length ↔ ∀ line ∈ ls, OneLine line := by
  induction ls with
  | nil => exact ⟨fun _ line h => absurd h List.not_mem_nil, fun _ => rfl⟩
  | cons line ls ih =>
      have hle := length_le_count_text ls
      rw [count_text_cons, List.length_cons, List.forall_mem_cons, ← ih, OneLine,
        ← List.count_eq_zero]
      omega

theorem oneLine_diagnostic_iff {number : Nat} {e : CommandError} :
    OneLine (diagnostic number e) ↔ OneLine e.message :=
  ⟨fun h => (oneLine_append_iff.1 h).2, fun h => .append (.append (.append (by simp [OneLine])
    (oneLine_showNat number)) (by simp [OneLine])) h⟩

/-- As many line feeds as there are lines. -/
theorem Framed.count_eq {count : Nat} {text : String} (h : Framed count text) :
    text.toList.count '\n' = count := by
  obtain ⟨entries, rfl, -, hmessages, rfl⟩ := h
  refine (count_text_eq_length_iff.2 fun line hline => ?_).trans (List.length_map _)
  obtain ⟨entry, hentry, rfl⟩ := List.mem_map.1 hline
  exact .append (.append (.append (by simp [OneLine]) (oneLine_showNat _)) (by simp [OneLine]))
    (hmessages entry hentry)

theorem refusal?_eq (s : Stage) (entry : String × Nat) :
    refusal? (Report.judgement s) entry.1 entry.2 =
      (failure? s entry).map fun failure => diagnostic failure.1 failure.2 := by
  rw [refusal?, failure?, Report.judgement]
  split
  · rfl
  · cases evaluateText s entry.1 <;> rfl

theorem refused_eq (s : Stage) (number : Nat) (ls : List String) :
    refused (Report.judgement s) number ls =
      (failures s number ls).map fun failure => diagnostic failure.1 failure.2 := by
  rw [failures, List.map_filterMap, refused]
  exact congrArg (List.filterMap · _) (funext (refusal?_eq s))

theorem failure?_eq_some {s : Stage} {entry : String × Nat} {failure : Nat × CommandError}
    (h : failure? s entry = some failure) :
    failure.1 = entry.2 ∧ evaluateText s entry.1 = .error failure.2 := by
  unfold failure? at h
  split at h
  · cases h
  · split at h
    · cases h
    · rename_i e he
      cases h
      exact ⟨rfl, he⟩

theorem mem_failures {s : Stage} {number : Nat} {ls : List String}
    {failure : Nat × CommandError} (h : failure ∈ failures s number ls) :
    ∃ line, (line, failure.1) ∈ ls.zipIdx number ∧ evaluateText s line = .error failure.2 := by
  obtain ⟨⟨line, n⟩, hline, hfailure⟩ := List.mem_filterMap.1 h
  obtain ⟨hnumber, he⟩ := failure?_eq_some hfailure
  exact ⟨line, hnumber ▸ hline, he⟩

theorem pairwise_failures (s : Stage) (number : Nat) (ls : List String) :
    (failures s number ls).Pairwise fun a b => a.1 < b.1 := by
  have hnumbers : (ls.zipIdx number).Pairwise fun a b => a.2 < b.2 := by
    have hrange := List.pairwise_lt_range' (s := number) (n := ls.length)
    rw [← List.zipIdx_map_snd number ls] at hrange
    exact List.pairwise_map.1 hrange
  refine hnumbers.filterMap _ fun a b hlt c hc d hd => ?_
  rwa [(failure?_eq_some hc).1, (failure?_eq_some hd).1]

/-- The diagnostics of a run are those of the failures among the lines it comes to. -/
theorem exists_failures (s : Stage) (failFast : Bool) (number : Nat) (ls : List String) :
    ∃ front, front <+: ls ∧ (streamLines s failFast number ls).diagnostics =
      (failures s number front).map fun failure => diagnostic failure.1 failure.2 := by
  cases failFast with
  | false =>
      refine ⟨ls, List.prefix_rfl, ?_⟩
      rw [streamLines_eq]
      exact refused_eq s number ls
  | true =>
      refine ⟨throughFirst (fails (Report.judgement s)) ls, throughFirst_prefix _ ls, ?_⟩
      rw [streamLines_failFast, streamLines_eq]
      exact refused_eq s number _

/-- The diagnostics of a stream are lines of their own if no text that they quote has a line feed,
and only then.  The wording of a pattern that is refused is left open. -/
theorem stream_framed (h : stream expression inputType failFast text = .ok r) :
    ∃ (s : Stage) (entries : List (Nat × CommandError)),
      buildStage expression inputType = .ok s ∧
      r.diagnostics = entries.map (fun entry => diagnostic entry.1 entry.2) ∧
      entries.Pairwise (fun a b => a.1 < b.1) ∧
      (∀ entry ∈ entries, ∃ line, (line, entry.1) ∈ (lines text).zipIdx 1 ∧
        evaluateText s line = .error entry.2) ∧
      ((∀ entry ∈ entries, entry.2 ≠ .fault .invalidPattern) →
        (Framed r.faulted (Report.text r.diagnostics) ↔
          ∀ entry ∈ entries, ∀ input, entry.2.quoted? = some input → OneLine input)) := by
  obtain ⟨s, hs, hr⟩ := bind_eq_ok h
  cases hr
  obtain ⟨front, hfront, hdiagnostics⟩ := exists_failures s failFast 1 (lines text)
  have hentries := pairwise_failures s 1 front
  have hlines : ∀ entry ∈ failures s 1 front,
      ∃ line, (line, entry.1) ∈ front.zipIdx 1 ∧ evaluateText s line = .error entry.2 :=
    fun _ => mem_failures
  generalize failures s 1 front = entries at hdiagnostics hentries hlines
  refine ⟨s, entries, hs, hdiagnostics, hentries, fun entry hentry => ?_, fun _ => ⟨?_, ?_⟩⟩
  · obtain ⟨line, hline, he⟩ := hlines entry hentry
    obtain ⟨rest, hrest⟩ := hfront
    rw [← hrest, List.zipIdx_append]
    exact ⟨line, List.mem_append_left _ hline, he⟩
  · intro hframed entry hentry input hinput
    have hcount := count_text_eq_length_iff.1 hframed.count_eq
    rw [hdiagnostics] at hcount
    have hmessage := oneLine_diagnostic_iff.1 (hcount _ (List.mem_map_of_mem hentry))
    exact CommandError.oneLine_quoted hmessage hinput
  · intro hquoted
    rw [Report.faulted, hdiagnostics, List.length_map]
    refine ⟨entries.map fun entry => (entry.1, entry.2.message), List.length_map _, ?_, ?_, ?_⟩
    · exact List.pairwise_map.2 hentries
    · intro _ hmem
      obtain ⟨entry, hentry, rfl⟩ := List.mem_map.1 hmem
      obtain ⟨line, -, he⟩ := hlines entry hentry
      exact (evaluateText_contained hs line).of_eq_error he (hquoted entry hentry)
    · rw [List.map_map]
      rfl

/-- Texts that are no numbers, where numbers are expected: a letter, and two lines. -/
theorem diagnostics_parse :
    (stream "int.Parse(it)" "string" false "\"a\"\n\"1\"\n").toOption.map (·.diagnostics) =
        some ["line 1: evaluation fault: 'a' is not a valid Int32"] ∧
      (stream "int.Parse(it)" "string" false "\"a\\nline 7: forged\"").toOption.map
          (·.diagnostics) =
        some ["line 1: evaluation fault: 'a\nline 7: forged' is not a valid Int32"] := by
  decide +kernel

theorem stream_framed_letter :
    ∃ r, stream "int.Parse(it)" "string" false "\"a\"\n\"1\"\n" = .ok r ∧
      r.diagnostics = ["line 1: evaluation fault: 'a' is not a valid Int32"] ∧
      Framed r.faulted (Report.text r.diagnostics) := by
  obtain ⟨r, hr, hdiagnostics⟩ := exists_ok_of_toOption_map diagnostics_parse.1
  obtain ⟨s, entries, -, hentries, -, -, hframed⟩ := stream_framed hr
  have hwritten {entry : Nat × CommandError} (h : entry ∈ entries) :
      diagnostic entry.1 entry.2 = "line 1: evaluation fault: 'a' is not a valid Int32" := by
    have hmem := List.mem_map_of_mem (f := fun entry => diagnostic entry.1 entry.2) h
    rwa [← hentries, hdiagnostics, List.mem_singleton] at hmem
  refine ⟨r, hr, hdiagnostics, (hframed fun entry hentry hpattern => ?_).2 ?_⟩
  · have hlast := congrArg (fun text => text.toList.getLast?) (hwritten hentry)
    have hmessage : (CommandError.fault .invalidPattern).message.toList.getLast? = some 'n' := by
      decide
    rw [hpattern, diagnostic, String.toList_append, List.getLast?_append, hmessage,
      Option.some_or] at hlast
    exact absurd hlast (by decide)
  · intro entry hentry input hinput
    have hline : OneLine (diagnostic entry.1 entry.2) := by
      rw [hwritten hentry]
      decide
    exact CommandError.oneLine_quoted (oneLine_diagnostic_iff.1 hline) hinput

/-- A text with a line feed, which can bring in a diagnostic of another line. -/
theorem stream_not_framed :
    ∃ r, stream "int.Parse(it)" "string" false "\"a\\nline 7: forged\"" = .ok r ∧
      r.diagnostics =
        ["line 1: evaluation fault: 'a\nline 7: forged' is not a valid Int32"] ∧
      r.faulted = 1 ∧ ¬Framed r.faulted (Report.text r.diagnostics) := by
  obtain ⟨r, hr, hdiagnostics⟩ := exists_ok_of_toOption_map diagnostics_parse.2
  refine ⟨r, hr, hdiagnostics, congrArg List.length hdiagnostics, fun hframed => ?_⟩
  have hcount := count_text_eq_length_iff.1 hframed.count_eq
  rw [hdiagnostics] at hcount
  exact absurd (hcount _ List.mem_cons_self) (by decide)

end Command

end Elementwise
