import Elementwise.Proofs.Library.Catalog
import Elementwise.Proofs.Simulation.Member
import Elementwise.Proofs.Soundness.Stage

/-!
A catalog is an allow-list.  An expression that is typed with a catalog calls no function but those
of the members of values and those that a symbol of the catalog offers, and with more names in the
catalog it is typed as the same term: a name that means nothing in the one catalog cannot come to
stand for anything else in a term that is typed without it.
-/

namespace Elementwise

/-- Every name that the first catalog looks up means the same symbol in the second. -/
def Catalog.Narrows (c c' : Catalog) : Prop :=
  ∀ name s, c.lookup name = some s → c'.lookup name = some s

/-- The functions that an expression may call: those of values, and those the catalog offers. -/
def Catalog.Allows (c : Catalog) (b : Builtin) : Prop :=
  (∃ t : Ty, t.Offers b) ∨ c.Offers b

/-! ### Catalogs without some of the symbols -/

/-- The builders that the removal of symbols from the whole library leads to. -/
inductive CatalogBuilder.Reduced : CatalogBuilder → Prop where
  | standard : Reduced .standard
  | remove {b b' : CatalogBuilder} {name : String} (hb : Reduced b) (h : b.remove name = .ok b') :
    Reduced b'

theorem CatalogBuilder.Reduced.subset {b : CatalogBuilder} (hb : b.Reduced) :
    b.entries ⊆ Catalog.standard.entries := by
  induction hb with
  | standard => exact List.Subset.refl _
  | remove _ h ih =>
      obtain ⟨s, -, rfl⟩ := map_eq_ok h
      exact List.Subset.trans (List.filter_subset_self _) ih

/-- The forms in which the names of a symbol are compared. -/
def LibrarySymbol.keys (s : LibrarySymbol) : List String :=
  s.spellings.map Text.fold

theorem CatalogEntry.key_mem_of_mem_ofSymbol {s : LibrarySymbol} {e : CatalogEntry}
    (h : e ∈ ofSymbol s) : e.key ∈ s.keys := by
  obtain ⟨spelling, hmem, rfl⟩ := List.mem_map.1 h
  exact List.mem_map_of_mem hmem

namespace Library

/-- No name of the library, in whatever letter case, stands for two symbols. -/
theorem keys_disjoint :
    (standard.map LibrarySymbol.keys).Pairwise fun keys keys' => ∀ key ∈ keys, key ∉ keys' := by
  decide +kernel

theorem symbol_eq_of_mem_keys {s s' : LibrarySymbol} (hs : s ∈ standard) (hs' : s' ∈ standard)
    {key : String} (h : key ∈ s.keys) (h' : key ∈ s'.keys) : s' = s := by
  have hpair := List.pairwise_map.1 keys_disjoint
  have hall := List.Pairwise.forall_of_forall_of_flip
    (R := fun s s' => s' = s ∨ ∀ key ∈ s.keys, key ∉ s'.keys) (fun _ _ => Or.inl rfl)
    (hpair.imp Or.inr) (hpair.imp fun hd => Or.inr fun key hkey' hkey => hd key hkey hkey')
  exact (hall hs hs').resolve_right fun hd => hd key h h'

theorem symbol_eq_of_key_eq {e e' : CatalogEntry} (he : e ∈ Catalog.standard.entries)
    (he' : e' ∈ Catalog.standard.entries) (hkey : e'.key = e.key) : e'.symbol = e.symbol := by
  obtain ⟨s, hs, he⟩ := List.mem_flatMap.1 he
  obtain ⟨s', hs', he'⟩ := List.mem_flatMap.1 he'
  rw [CatalogEntry.symbol_of_mem_ofSymbol he, CatalogEntry.symbol_of_mem_ofSymbol he']
  refine symbol_eq_of_mem_keys hs hs' (CatalogEntry.key_mem_of_mem_ofSymbol he) ?_
  exact hkey ▸ CatalogEntry.key_mem_of_mem_ofSymbol he'

end Library

theorem Catalog.mem_of_find? {c : Catalog} {key : String} {e : CatalogEntry}
    (h : c.find? key = some e) : e ∈ c.entries ∧ e.key = key := by
  obtain ⟨hkey, -⟩ := List.find?_eq_some_iff_append.1 h
  exact ⟨List.mem_of_find?_eq_some h, beq_iff_eq.1 hkey⟩

/-- A catalog from which symbols were removed means by its names what the library does. -/
theorem CatalogBuilder.Reduced.narrows {b : CatalogBuilder} {c : Catalog} (hb : b.Reduced)
    (h : b.build = .ok c) : c.Narrows .standard := by
  intro name s hs
  obtain ⟨e, he, rfl⟩ := Option.map_eq_some_iff.1 hs
  obtain ⟨hmem, hkey⟩ := Catalog.mem_of_find? he
  have hstandard := hb.subset (build_subset h hmem)
  rw [Catalog.lookup]
  cases hfound : Catalog.standard.find? (Text.fold name) with
  | none =>
      have habsent := List.find?_eq_none.1 hfound e hstandard
      exact absurd (beq_iff_eq.2 hkey) habsent
  | some e' =>
      obtain ⟨hmem', hkey'⟩ := Catalog.mem_of_find? hfound
      exact congrArg some (Library.symbol_eq_of_key_eq hstandard hmem' (hkey'.trans hkey.symm))

theorem Catalog.not_offers_of_entries {c : Catalog} {b : Builtin}
    (h : c.entries.all (fun e => e.symbol.members.all fun m =>
      m.signatures.all fun o => o.builtin != b) = true) : ¬ c.Offers b := by
  rintro ⟨name, s, hs, m, hm, o, ho, rfl⟩
  obtain ⟨e, he, rfl⟩ := Option.map_eq_some_iff.1 hs
  have hmembers := List.all_eq_true.1 h e (Catalog.mem_of_find? he).1
  have hoverloads := List.all_eq_true.1 (List.all_eq_true.1 hmembers m hm) o ho
  exact bne_iff_ne.1 hoverloads rfl

namespace Typing

open Term (callsAll)

/-! ### Equal terms -/

/-- Every call in the term is one of an allowed function. -/
def CallsOnly (allowed : Builtin → Prop) (t : Term) : Prop :=
  ∀ c ∈ t.calls, allowed c.builtin

section Same

variable {allowed : Builtin → Prop} {t t' : Term} {ts ts' : List Term}

/-- Equal terms that call allowed functions only. -/
def Same (allowed : Builtin → Prop) (t t' : Term) : Prop :=
  t' = t ∧ CallsOnly allowed t

theorem same_all (h : List.Forall₂ (Same allowed) ts ts') :
    ts' = ts ∧ ∀ c ∈ callsAll ts, allowed c.builtin := by
  induction h with
  | nil => exact ⟨rfl, nofun⟩
  | cons h _ ih => exact ⟨by rw [h.1, ih.1], List.forall_mem_append.2 ⟨h.2, ih.2⟩⟩

/-- Typing decides alike about equal terms, and a call that it makes is one of a function that is
offered. -/
def sameTerms (allowed : Builtin → Prop) (hmember : ∀ (t : Ty) b, t.Offers b → allowed b) :
    Simulation where
  rel _ := Same allowed
  offered := allowed
  member := hmember _ _
  ty_eq h := congrArg Term.ty h.1
  constant _ _ _ := ⟨rfl, nofun⟩
  item _ _ := ⟨rfl, nofun⟩
  coerce _ _ h := ⟨by rw [h.1], h.2⟩
  convert _ _ h := ⟨by rw [h.1], h.2⟩
  unary _ _ _ h := ⟨by rw [h.1], h.2⟩
  binary _ _ _ hl hr := ⟨by rw [hl.1, hr.1], List.forall_mem_append.2 ⟨hl.2, hr.2⟩⟩
  coalesce _ hl hr := ⟨by rw [hl.1, hr.1], List.forall_mem_append.2 ⟨hl.2, hr.2⟩⟩
  choice _ hc ht hf := ⟨by rw [hc.1, ht.1, hf.1],
    List.forall_mem_append.2 ⟨hc.2, List.forall_mem_append.2 ⟨ht.2, hf.2⟩⟩⟩
  call _ _ hb h := ⟨by rw [(same_all h).1], List.forall_mem_cons.2 ⟨hb, (same_all h).2⟩⟩
  field _ _ _ h := ⟨by rw [h.1], h.2⟩
  index _ _ h hi := ⟨by rw [h.1, hi.1], List.forall_mem_append.2 ⟨h.2, hi.2⟩⟩
  query _ _ _ hs hb ha := by
    obtain ⟨ha, hargs⟩ := same_all ha
    cases hb with
    | none => exact ⟨by rw [hs.1, ha], List.forall_mem_append.2 ⟨hs.2, hargs⟩⟩
    | some hb =>
        refine ⟨by rw [hs.1, ha, hb.1], List.forall_mem_append.2 ⟨hs.2, ?_⟩⟩
        exact List.forall_mem_append.2 ⟨List.forall_mem_map.2 hb.2, hargs⟩
  array _ h := ⟨by rw [(same_all h).1], (same_all h).2⟩
  record _ h := ⟨by rw [(same_all h).1], (same_all h).2⟩
  admits _ _ := True
  admits_deeper _ := trivial
  pattern _ h hcheck := by rw [(same_all h).1, hcheck]

end Same

/-! ### Names -/

variable {c c' : Catalog} {scopes : List Scope}

/-- A name that is no symbol of the narrower catalog, and no parameter, has no type there. -/
theorem symbol?_narrows (h : c.Narrows c') (object : Expr) (np : Bool) :
    symbol? c' scopes object = symbol? c scopes object ∨
      symbol? c scopes object = none ∧ ∀ t, bind c object np scopes ≠ .ok t := by
  cases object with
  | identifier id =>
      simp only [symbol?]
      cases hp : parameter? id.key scopes with
      | some found => exact Or.inl rfl
      | none =>
          cases hc : c.lookup id.name with
          | some s => exact Or.inl (h id.name s hc)
          | none =>
              refine Or.inr ⟨rfl, fun t ht => ?_⟩
              rw [bind, bindName, hp, hc] at ht
              cases ht
  | _ => exact Or.inl rfl

theorem exists_lookup_of_symbol? {object : Expr} {s : LibrarySymbol}
    (h : symbol? c scopes object = some s) : ∃ name, c.lookup name = some s := by
  unfold symbol? at h
  split at h
  · split at h
    · cases h
    · exact ⟨_, h⟩
  · cases h

theorem conversionTarget_narrows (h : c.Narrows c') {id : Ident} {t : Ty}
    (ht : conversionTarget c id = .ok t) : conversionTarget c' id = .ok t := by
  unfold conversionTarget at ht ⊢
  cases hc : c.lookup id.name with
  | none =>
      rw [hc] at ht
      cases ht
  | some s =>
      rw [hc] at ht
      rw [h id.name s hc]
      exact ht

/-! ### Expressions -/

/-- Equal terms that call only what the catalog allows. -/
abbrev allowedTerms (c : Catalog) : Simulation :=
  sameTerms c.Allows fun t _ h => Or.inl ⟨t, h⟩

/-- The typing with the wider catalog has every result of that with the narrower one. -/
abbrev Kept (c : Catalog) (d : Nat) (o o' : Typed Term) : Prop :=
  Follows ((allowedTerms c).Good d) ((allowedTerms c).rel d) o o'

open Simulation

theorem bindName_kept (d : Nat) (id : Ident) :
    Kept c d (bindName c id scopes) (bindName c' id scopes) := by
  unfold bindName
  split
  · exact .ok ⟨rfl, List.forall_mem_nil _⟩
  · split
    · exact .of_error
    · exact .of_error

mutual

theorem bind_kept (h : c.Narrows c') : (e : Expr) → (d : Nat) → (np : Bool) →
    (scopes : List Scope) → Kept c d (bind c e np scopes) (bind c' e np scopes)
  | .literal l, d, _, _ => by
      rw [bind, bind]
      cases l <;> exact .ok ((allowedTerms c).constant d _ _)
  | .null, d, _, _ => by
      rw [bind, bind]
      exact .ok ((allowedTerms c).constant d _ _)
  | .it offset, d, _, scopes => by
      rw [bind, bind]
      unfold bindIt
      split
      · exact .ok ⟨rfl, nofun⟩
      · exact .of_error
  | .identifier id, d, _, scopes => by
      rw [bind, bind]
      exact bindName_kept d id
  | .member object name, d, np, scopes => by
      rw [bind, bind]
      refine symbol_follows ?_ (symbol?_narrows h object np) fun s _ => bindConstant_follows s name
      exact bind_follows (bind_kept h object d np scopes) (fun t => bindProperty_keeps t name np)
        fun _ _ => bindProperty_follows name np
  | .index object args offset, d, np, scopes => by
      rw [bind, bind]
      exact bind_follows (bind_kept h object d np scopes)
        (fun t => bindIndex_keeps t np scopes (arguments c args) offset)
        fun _ _ => bindIndex_follows (arguments_kept h args d scopes) offset np
  | .call callee args offset, d, np, scopes => by
      cases callee with
      | identifier id =>
          rw [bind, bind]
          split
          · exact .of_error
          · exact .bind_eq (fun _ => conversionTarget_narrows h) fun target =>
              bindConversion_follows (arguments_kept h args d scopes) target id
      | member object name =>
          rw [bind, bind]
          have hargs := arguments_kept h args d scopes
          refine symbol_follows ?_ (symbol?_narrows h object np) fun s hs => ?_
          · exact bind_follows (bind_kept h object d np scopes)
              (fun t => bindMethodCall_keeps t name np scopes (arguments c args))
              fun _ _ => bindMethodCall_follows hargs name np
          · obtain ⟨spelling, hlookup⟩ := exists_lookup_of_symbol? hs
            exact bindStaticCall_follows hargs (fun b hb => Or.inr ⟨spelling, s, hlookup, hb⟩) name
      | _ =>
          rw [bind]
          · exact .of_error
          · exact nofun
          · exact nofun
  | .nullableConversion target args, d, _, scopes => by
      rw [bind, bind]
      refine .bind_eq (fun _ => conversionTarget_narrows h) fun t => ?_
      split
      · exact bindConversion_follows (arguments_kept h args d scopes) t.asNullable target
      · exact .of_error
  | .unary op operand offset, d, _, scopes => by
      rw [bind, bind]
      exact unary_follows op offset (bind_kept h operand d false scopes)
  | .binary op left right offset, d, _, scopes => by
      rw [bind, bind]
      exact binary_follows op offset (bind_kept h left d false scopes)
        (bind_kept h right d false scopes)
  | .conditional condition whenTrue whenFalse offset, d, _, scopes => by
      rw [bind, bind]
      exact conditional_follows offset (bind_kept h condition d false scopes)
        (bind_kept h whenTrue d false scopes) (bind_kept h whenFalse d false scopes)
  | .nullPropagation operand _, d, _, scopes => by
      rw [bind, bind]
      exact bind_kept h operand d true scopes
  | .array elements offset, d, _, scopes => by
      rw [bind, bind]
      exact bindArray_follows offset (values_follows (arguments_kept h elements d scopes))
  | .record members _, d, _, scopes => by
      rw [bind, bind]
      exact record_follows (bindMembers_kept h members d [] scopes)
  | .lambda param _, d, _, _ => by
      rw [bind]
      exact .of_error

theorem arguments_kept (h : c.Narrows c') : (args : List Expr) → (d : Nat) →
    (scopes : List Scope) → List.Forall₂ ((allowedTerms c).ArgumentFollows d scopes scopes)
      (arguments c args) (arguments c' args)
  | [], _, _ => by
      rw [arguments, arguments]
      exact .nil
  | arg :: args, d, scopes => by
      cases arg with
      | lambda param body =>
          rw [arguments, arguments]
          refine .cons ⟨.of_error, fun item => ?_⟩ (arguments_kept h args d scopes)
          exact bind_kept h body (d + 1) false (⟨param.key, item⟩ :: scopes)
      | _ =>
          rw [arguments, arguments]
          · refine .cons ⟨?_, fun item => ?_⟩ (arguments_kept h args d scopes)
            · exact bind_kept h _ d false scopes
            · exact bind_kept h _ (d + 1) false (⟨itKey, item⟩ :: scopes)
          · exact nofun
          · exact nofun

theorem bindMembers_kept (h : c.Narrows c') : (members : List (Ident × Expr)) → (d : Nat) →
    (given : List String) → (scopes : List Scope) →
    Follows (fun m => (allowedTerms c).AllGood d m.2) ((allowedTerms c).FieldsRel d)
      (bindMembers c members given scopes) (bindMembers c' members given scopes)
  | [], d, _, _ => by
      rw [bindMembers, bindMembers]
      exact .ok ⟨rfl, .nil⟩
  | (name, e) :: members, d, given, scopes => by
      rw [bindMembers, bindMembers]
      split
      · exact .of_error
      · exact field_follows name.name (bind_kept h e d false scopes)
          (bindMembers_kept h members d (name.key :: given) scopes)

end

/-! ### Whole expressions -/

variable {e : Expr} {input : Ty} {t : Term}

theorem bindInput_kept (h : c.Narrows c') (ht : bindInput c e input = .ok t) :
    bindInput c' e input = .ok t ∧ CallsOnly c.Allows t := by
  obtain ⟨t', ht', hsame⟩ := bind_kept h e 0 false [⟨itKey, input⟩] t ht fun _ _ => trivial
  rw [hsame.1] at ht'
  exact ⟨ht', hsame.2⟩

/-- The catalog without regular expressions, and an expression that is typed with it. -/
theorem exists_withoutRegex : ∃ b c e t,
    CatalogBuilder.standard.remove "Regex" = .ok b ∧ b.build = .ok c ∧
      Expr.parse "it.Where(s => s.Length > Math.Max(2, 3)).Select(s => s.Trim())" = .ok e ∧
      bindInput c e (.array .string) = .ok t ∧
      t.calls.map (·.builtin) = [.stringLength, .max, .trim] ∧
      c.entries.all (fun entry => entry.symbol.members.all fun m =>
        m.signatures.all fun o => o.builtin != .regexIsMatch) = true := by
  have hcheck : (match CatalogBuilder.standard.remove "Regex" with
      | .error _ => false
      | .ok b =>
        match b.build with
        | .error _ => false
        | .ok c =>
          match Term.parse c "it.Where(s => s.Length > Math.Max(2, 3)).Select(s => s.Trim())"
              (.array .string) with
          | .error _ => false
          | .ok t =>
            t.calls.map (·.builtin) = [.stringLength, .max, .trim] &&
              c.entries.all (fun entry => entry.symbol.members.all fun m =>
                m.signatures.all fun o => o.builtin != .regexIsMatch)) = true := by
    decide +kernel
  split at hcheck
  · cases hcheck
  rename_i b hb
  split at hcheck
  · cases hcheck
  rename_i c hc
  split at hcheck
  · cases hcheck
  rename_i t ht
  obtain ⟨e, he, ht⟩ := Term.parse_eq_ok ht
  obtain ⟨hcalls, hentries⟩ := Bool.and_eq_true_iff.1 hcheck
  exact ⟨b, c, e, t, hb, hc, he, ht, of_decide_eq_true hcalls, hentries⟩

/-- With more names in the catalog an expression that had a type is the same term as before. -/
theorem bindInput_of_narrows (h : c.Narrows c') (ht : bindInput c e input = .ok t) :
    bindInput c' e input = .ok t :=
  (bindInput_kept h ht).1

theorem bindInput_of_narrows_withoutRegex : ∃ b c e t,
    CatalogBuilder.standard.remove "Regex" = .ok b ∧ b.build = .ok c ∧
      Expr.parse "it.Where(s => s.Length > Math.Max(2, 3)).Select(s => s.Trim())" = .ok e ∧
      bindInput c e (.array .string) = .ok t ∧ bindInput .standard e (.array .string) = .ok t := by
  obtain ⟨b, c, e, t, hb, hc, he, ht, -, -⟩ := exists_withoutRegex
  have hnarrows := (CatalogBuilder.Reduced.standard.remove hb).narrows hc
  exact ⟨b, c, e, t, hb, hc, he, ht, bindInput_of_narrows hnarrows ht⟩

/-- An expression calls functions of values and of the symbols of its catalog, and no others; a
function of a class is called only if the catalog has a symbol that offers it. -/
theorem bindInput_allows (ht : bindInput c e input = .ok t) :
    (∀ call ∈ t.calls, (∃ u : Ty, u.Offers call.builtin) ∨ c.Offers call.builtin) ∧
      ∀ b : Builtin, b.isOfClass = true → ¬ c.Offers b → ∀ call ∈ t.calls, call.builtin ≠ b := by
  have hcalls : CallsOnly c.Allows t := (bindInput_kept (fun _ _ hs => hs) ht).2
  refine ⟨hcalls, fun b hclass hb call hcall => ?_⟩
  rintro rfl
  rcases hcalls call hcall with ⟨u, hu⟩ | hc
  · rw [hu.isOfClass_eq_false] at hclass
    cases hclass
  · exact hb hc

theorem bindInput_allows_withoutRegex : ∃ b c e t,
    CatalogBuilder.standard.remove "Regex" = .ok b ∧ b.build = .ok c ∧
      Expr.parse "it.Where(s => s.Length > Math.Max(2, 3)).Select(s => s.Trim())" = .ok e ∧
      bindInput c e (.array .string) = .ok t ∧
      t.calls.map (·.builtin) = [.stringLength, .max, .trim] ∧
      (∀ call ∈ t.calls, (∃ u : Ty, u.Offers call.builtin) ∨ c.Offers call.builtin) ∧
      ∀ call ∈ t.calls, call.builtin ≠ .regexIsMatch := by
  obtain ⟨b, c, e, t, hb, hc, he, ht, hcalls, hentries⟩ := exists_withoutRegex
  obtain ⟨hallowed, hclass⟩ := bindInput_allows ht
  have hregex : ¬ c.Offers .regexIsMatch := Catalog.not_offers_of_entries hentries
  exact ⟨b, c, e, t, hb, hc, he, ht, hcalls, hallowed, hclass .regexIsMatch rfl hregex⟩

end Typing

end Elementwise
