import Elementwise.Proofs.Layout.Lexer
import Elementwise.Proofs.Library.AllowList

/-!
The names of types.  A type of the library is named by any spelling of its symbol in any letter case;
`[]` behind the name of a type makes the name of its array, and `?` behind the name of a value type that
of its nullable type, with white space wherever one of these parts ends.  No other text names a type.
-/

namespace Elementwise

open Text

/-! ### Types with a name -/

/-- The types that have a name: those that the library converts to, their arrays at any depth, and the
nullable types of value types among all these. -/
inductive Ty.Nameable : Ty → Prop where
  | target {s : LibrarySymbol} {t : Ty} (hs : s ∈ Library.standard) (ht : s.target? = some t) :
    Nameable t
  | array {t : Ty} (h : Nameable t) : Nameable (.array t)
  | nullable {t : Ty} (h : Nameable t) (hvalue : t.isValueType = true) : Nameable (.nullable t)

/-- The display name of a type, with a suffix for each array and each nullable type in it. -/
def Ty.typeName : Ty → List Char
  | .array t => t.typeName ++ ['[', ']']
  | .nullable t => t.typeName ++ ['?']
  | t => t.name.toList

/-- The text is white space. -/
def IsBlank (cs : List Char) : Prop :=
  ∀ c ∈ cs, isSpace c = true

theorem isBlank_nil : IsBlank [] :=
  List.forall_mem_nil _

theorem IsBlank.reverse {cs : List Char} (h : IsBlank cs) : IsBlank cs.reverse :=
  fun c hc => h c (List.mem_reverse.1 hc)

/-- The texts that name a type: the display name or an alias of it in any letter case, and the suffixes of
its arrays and nullable types with white space before them. -/
inductive Ty.NamedBy : Ty → List Char → Prop where
  | target {s : LibrarySymbol} {t : Ty} {spelling : String} {name : List Char}
      (hs : s ∈ Library.standard) (ht : s.target? = some t) (hshown : t.name ∈ s.spellings)
      (hspelling : spelling ∈ s.spellings) (hname : fold (String.ofList name) = fold spelling) : NamedBy t name
  | array {t : Ty} {cs blank : List Char} (h : NamedBy t cs) (hblank : IsBlank blank) :
    NamedBy (.array t) (cs ++ blank ++ ['[', ']'])
  | nullable {t : Ty} {cs blank : List Char} (h : NamedBy t cs) (hvalue : t.isValueType = true)
      (hblank : IsBlank blank) : NamedBy (.nullable t) (cs ++ blank ++ ['?'])

variable {s : LibrarySymbol} {t : Ty} {name cs before after blank : List Char} {spelling : String}

theorem Ty.NamedBy.nameable (h : t.NamedBy cs) : t.Nameable := by
  induction h with
  | target hs ht => exact .target hs ht
  | array _ _ ih => exact .array ih
  | nullable _ hvalue _ ih => exact .nullable ih hvalue

/-! ### Looking up names -/

namespace Library

/-- The type that a symbol stands for is shown by a name of the symbol. -/
theorem name_mem_spellings (hs : s ∈ standard) (ht : s.target? = some t) : t.name ∈ s.spellings := by
  have hall : (standard.all fun s => s.target?.all fun t => s.spellings.contains t.name) = true := by
    decide +kernel
  have htarget := List.all_eq_true.1 hall s hs
  rw [ht] at htarget
  exact List.contains_iff_mem.1 htarget

/-- The types that symbols stand for have no suffix. -/
theorem typeName_of_target (hs : s ∈ standard) (ht : s.target? = some t) :
    t.typeName = t.name.toList := by
  have hall : (standard.all fun s => s.target?.all fun t => t.typeName == t.name.toList) = true := by
    decide +kernel
  have htarget := List.all_eq_true.1 hall s hs
  rw [ht] at htarget
  exact eq_of_beq htarget

/-- The characters that part a name from its suffixes. -/
def isParting (c : Char) : Bool :=
  isSpace c || c == '?' || c == ']'

theorem isParting_of_mem_key (hs : s ∈ standard) (hspelling : spelling ∈ s.spellings) :
    fold spelling ≠ "" ∧ ∀ c ∈ (fold spelling).toList, isParting c = false := by
  have hall : (standard.all fun s => s.keys.all fun key =>
      key != "" && key.toList.all fun c => !isParting c) = true := by
    decide +kernel
  have hkey := List.all_eq_true.1 (List.all_eq_true.1 hall s hs) _ (List.mem_map_of_mem hspelling)
  rw [Bool.and_eq_true, bne_iff_ne] at hkey
  refine ⟨hkey.1, fun c hc => ?_⟩
  have hc := List.all_eq_true.1 hkey.2 c hc
  rwa [Bool.not_eq_true'] at hc

theorem lowerChar_of_isParting {c : Char} (hc : isParting c = true) :
    c ≠ 'Σ' ∧ lowerChar c = [c] := by
  have hspaces : (Token.spaces.all fun c => c != 'Σ' && lowerChar c == [c]) = true := by
    decide +kernel
  simp only [isParting, Bool.or_eq_true, beq_iff_eq] at hc
  obtain (hspace | rfl) | rfl := hc
  · have hself := List.all_eq_true.1 hspaces c (Token.mem_spaces hspace)
    rwa [Bool.and_eq_true, bne_iff_ne, beq_iff_eq] at hself
  · exact ⟨by decide, by decide⟩
  · exact ⟨by decide, by decide⟩

/-- The names of the library have no such characters, in whatever letter case. -/
theorem isParting_of_mem_name (hs : s ∈ standard) (hspelling : spelling ∈ s.spellings)
    (hname : fold (String.ofList name) = fold spelling) :
    name ≠ [] ∧ ∀ c ∈ name, isParting c = false := by
  obtain ⟨hne, hkey⟩ := isParting_of_mem_key hs hspelling
  rw [← hname] at hne hkey
  refine ⟨?_, fun c hc => Bool.eq_false_iff.2 fun hparting => ?_⟩
  · rintro rfl
    exact hne rfl
  · obtain ⟨hsigma, hself⟩ := lowerChar_of_isParting hparting
    have hmem : c ∈ (fold (String.ofList name)).toList := by
      rw [fold, String.toList_ofList, String.toList_ofList]
      exact mem_lowerAfter hsigma hself hc
    rw [hkey c hmem] at hparting
    cases hparting

end Library

/-- The names of the library are the spellings of its symbols in any letter case. -/
theorem Catalog.lookup_standard_iff {name : String} : Catalog.standard.lookup name = some s ↔
    s ∈ Library.standard ∧ ∃ spelling ∈ s.spellings, fold name = fold spelling := by
  constructor
  · intro h
    obtain ⟨e, he, rfl⟩ := Option.map_eq_some_iff.1 h
    obtain ⟨hmem, hkey⟩ := Catalog.mem_of_find? he
    obtain ⟨s, hs, he⟩ := List.mem_flatMap.1 hmem
    obtain ⟨spelling, hspelling, rfl⟩ := List.mem_map.1 he
    exact ⟨hs, spelling, hspelling, hkey.symm⟩
  · rintro ⟨hs, spelling, hspelling, hname⟩
    have hmem : CatalogEntry.ofSpelling s spelling ∈ Catalog.standard.entries :=
      List.mem_flatMap.2 ⟨s, hs, List.mem_map_of_mem hspelling⟩
    rw [Catalog.lookup, hname]
    cases hfound : Catalog.standard.find? (fold spelling) with
    | none => exact absurd (beq_iff_eq.2 rfl) (List.find?_eq_none.1 hfound _ hmem)
    | some e =>
        obtain ⟨hmem', hkey⟩ := Catalog.mem_of_find? hfound
        exact congrArg some (Library.symbol_eq_of_key_eq hmem hmem' hkey)

namespace Catalog

/-! ### Names from their last character on -/

variable {c : Catalog} {ch : Char}

theorem resolveReversed_blank (hblank : IsBlank blank) (cs : List Char) :
    c.resolveReversed (blank ++ cs) = c.resolveReversed cs := by
  induction blank with
  | nil => rfl
  | cons ch blank ih =>
      have hspace := hblank ch List.mem_cons_self
      rw [List.cons_append, resolveReversed, if_pos hspace,
        ih fun d hd => hblank d (List.mem_cons_of_mem ch hd)]
      · rintro rfl
        cases hspace
      · rintro _ rfl
        cases hspace

theorem resolveReversed_of_isParting (hch : Library.isParting ch = false) (cs : List Char) :
    c.resolveReversed (ch :: cs) =
      (c.lookup (String.ofList (trimStart (ch :: cs).reverse))).bind (·.target?) := by
  have hspace : ¬isSpace ch = true := by
    intro h
    rw [Library.isParting, h] at hch
    cases hch
  rw [resolveReversed, if_neg hspace]
  · rintro rfl
    cases hch
  · rintro _ rfl
    cases hch

/-- White space before a name of the library is skipped. -/
theorem resolveReversed_of_lookup (hlookup : c.lookup (String.ofList name) = some s)
    (ht : s.target? = some t) (hne : name ≠ [])
    (hparting : ∀ ch ∈ name, Library.isParting ch = false) (hbefore : IsBlank before) :
    c.resolveReversed (before ++ name).reverse = some t := by
  have hspace : ∀ ch ∈ name, ¬isSpace ch = true := by
    intro ch hch h
    have hch := hparting ch hch
    rw [Library.isParting, h] at hch
    cases hch
  have htrim : trimStart (before ++ name) = name := by
    obtain ⟨first, others, rfl⟩ := List.exists_cons_of_ne_nil hne
    rw [trimStart, List.dropWhile_append_of_pos hbefore,
      List.dropWhile_cons_of_neg (hspace first List.mem_cons_self)]
  obtain ⟨last, others, hlast⟩ := List.exists_cons_of_ne_nil (List.reverse_ne_nil_iff.2 hne)
  have hmem : last ∈ name := List.mem_reverse.1 (hlast ▸ List.mem_cons_self)
  have hcons : (before ++ name).reverse = last :: (others ++ before.reverse) := by
    rw [List.reverse_append, hlast, List.cons_append]
  rw [hcons, resolveReversed_of_isParting (hparting last hmem), ← hcons, List.reverse_reverse, htrim,
    hlookup]
  exact ht

/-- A name of a type with white space before it means the type. -/
theorem resolveReversed_of_namedBy (h : t.NamedBy name) (hbefore : IsBlank before) :
    standard.resolveReversed (before ++ name).reverse = some t := by
  induction h with
  | target hs ht _ hspelling hname =>
      obtain ⟨hne, hparting⟩ := Library.isParting_of_mem_name hs hspelling hname
      exact resolveReversed_of_lookup (lookup_standard_iff.2 ⟨hs, _, hspelling, hname⟩) ht hne hparting
        hbefore
  | @array t cs blank _ hblank ih =>
      have hreverse : (before ++ (cs ++ blank ++ ['[', ']'])).reverse =
          ']' :: '[' :: (blank.reverse ++ (before ++ cs).reverse) := by simp
      rw [hreverse, resolveReversed, resolveReversed_blank hblank.reverse, ih]
      rfl
  | @nullable t cs blank _ hvalue hblank ih =>
      have hreverse : (before ++ (cs ++ blank ++ ['?'])).reverse =
          '?' :: (blank.reverse ++ (before ++ cs).reverse) := by simp
      rw [hreverse, resolveReversed, resolveReversed_blank hblank.reverse, ih]
      exact if_pos hvalue

/-- Whatever names a type is a name of it with white space around it. -/
theorem exists_namedBy_of_resolveReversed (h : standard.resolveReversed cs = some t) :
    ∃ before name after, cs.reverse = before ++ name ++ after ∧ IsBlank before ∧ IsBlank after ∧
      t.NamedBy name := by
  refine resolveReversed_induction (P := fun cs t => ∃ before name after,
    cs.reverse = before ++ name ++ after ∧ IsBlank before ∧ IsBlank after ∧ t.NamedBy name)
    ?_ ?_ ?_ ?_ h
  · intro cs s t hs ht
    obtain ⟨hmem, spelling, hspelling, hname⟩ := lookup_standard_iff.1 hs
    refine ⟨cs.reverse.takeWhile isSpace, _, [], ?_, fun _ => List.mem_takeWhile_imp, isBlank_nil,
      .target hmem ht (Library.name_mem_spellings hmem ht) hspelling hname⟩
    rw [List.append_nil]
    exact List.takeWhile_append_dropWhile.symm
  · rintro cs t ⟨before, name, after, hcs, hbefore, hafter, hname⟩
    refine ⟨before, name ++ after ++ ['[', ']'], [], ?_, hbefore, isBlank_nil, .array hname hafter⟩
    rw [List.reverse_cons, List.reverse_cons, hcs]
    simp only [List.append_assoc, List.append_nil, List.singleton_append]
  · rintro cs t hvalue ⟨before, name, after, hcs, hbefore, hafter, hname⟩
    refine ⟨before, name ++ after ++ ['?'], [], ?_, hbefore, isBlank_nil,
      .nullable hname hvalue hafter⟩
    rw [List.reverse_cons, hcs]
    simp only [List.append_assoc, List.append_nil]
  · rintro ch cs t hspace ⟨before, name, after, hcs, hbefore, hafter, hname⟩
    refine ⟨before, name, after ++ [ch], ?_, hbefore, ?_, hname⟩
    · rw [List.reverse_cons, hcs, List.append_assoc]
    · exact List.forall_mem_append.2 ⟨hafter, List.forall_mem_singleton.2 hspace⟩

end Catalog

/-- A type with a name is named by its display name with the suffixes. -/
theorem Ty.Nameable.namedBy_typeName (h : t.Nameable) : t.NamedBy t.typeName := by
  induction h with
  | @target s t hs ht =>
      refine .target hs ht (Library.name_mem_spellings hs ht) (Library.name_mem_spellings hs ht) ?_
      rw [Library.typeName_of_target hs ht, String.ofList_toList]
  | @array t _ ih =>
      have hname := ih.array isBlank_nil
      rwa [List.append_nil] at hname
  | @nullable t _ hvalue ih =>
      have hname := ih.nullable hvalue isBlank_nil
      rwa [List.append_nil] at hname

namespace Catalog

/-- Exactly the types with a name are denoted by type names.  A type is denoted by its display name with
a suffix for each array and nullable type in it, and by the texts that differ from that in the letter
case and the alias of the first part, in white space before the suffixes and around the whole, and in
nothing else. -/
theorem resolveType_typeName :
    (∀ t : Ty, t.Nameable → standard.resolveType (String.ofList t.typeName) = some t) ∧
    ∀ (text : String) (t : Ty), standard.resolveType text = some t ↔
      t.Nameable ∧ ∃ before name after, text.toList = before ++ name ++ after ∧ IsBlank before ∧
        IsBlank after ∧ t.NamedBy name := by
  have hresolve {t : Ty} {before name after : List Char} (h : t.NamedBy name)
      (hbefore : IsBlank before) (hafter : IsBlank after) :
      standard.resolveReversed (before ++ name ++ after).reverse = some t := by
    rw [List.reverse_append, resolveReversed_blank hafter.reverse]
    exact resolveReversed_of_namedBy h hbefore
  refine ⟨fun t ht => ?_, fun text t => ⟨fun h => ?_, ?_⟩⟩
  · have hname := hresolve ht.namedBy_typeName isBlank_nil isBlank_nil
    rw [List.nil_append, List.append_nil] at hname
    rw [resolveType, String.toList_ofList]
    exact hname
  · obtain ⟨before, name, after, htext, hbefore, hafter, hname⟩ := exists_namedBy_of_resolveReversed h
    rw [List.reverse_reverse] at htext
    exact ⟨hname.nameable, before, name, after, htext, hbefore, hafter, hname⟩
  · rintro ⟨-, before, name, after, htext, hbefore, hafter, hname⟩
    rw [resolveType, htext]
    exact hresolve hname hbefore hafter

/-- An array of dates that may be missing, in the form in which it is shown and in another one. -/
theorem resolveType_typeName_dates : (Ty.array (.nullable .dateTime)).Nameable ∧
    String.ofList (Ty.array (.nullable .dateTime)).typeName = "DateTime?[]" ∧
    standard.resolveType "DateTime?[]" = some (.array (.nullable .dateTime)) ∧
    ∃ before name after, " DATETIME ? []".toList = before ++ name ++ after ∧ IsBlank before ∧
      IsBlank after ∧ (Ty.array (.nullable .dateTime)).NamedBy name := by
  have hnameable : (Ty.array (.nullable .dateTime)).Nameable :=
    .array (.nullable (.target (s := Library.dateTime) (by simp [Library.standard]) rfl) rfl)
  have hresolve : standard.resolveType " DATETIME ? []" = some (.array (.nullable .dateTime)) := by
    decide +kernel
  have hshown : String.ofList (Ty.array (.nullable .dateTime)).typeName = "DateTime?[]" := by
    decide +kernel
  have hself := resolveType_typeName.1 _ hnameable
  rw [hshown] at hself
  exact ⟨hnameable, hshown, hself,
    ((resolveType_typeName.2 _ _).1 hresolve).2⟩

end Catalog

end Elementwise
