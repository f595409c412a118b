import Elementwise.Library.Catalog
import Elementwise.Library.Instance
import Elementwise.Proofs.Outcome

/-!
The library and the catalogs of its names.  The functions of the classes `Math`, `Convert` and `Regex`
that have no counterpart among the members of values are reached through the names of those classes only.
Whatever is added to a catalog, removed from it and renamed on the way, a name of it means a symbol of
the standard library.
-/

namespace Elementwise

/-! ### The functions that members offer -/

namespace Member

/-- The overloads of a method; other members have none. -/
def signatures : Member → List Signature
  | method _ overloads => overloads
  | constant .. | property .. => []

/-- The functions that a member of a value may be bound to. -/
def builtins : Member → List Builtin
  | property _ _ b => [b]
  | method _ overloads => overloads.map (·.builtin)
  | constant .. => []

end Member

/-- Some member of the values of the type is bound to the function. -/
def Ty.Offers (t : Ty) (b : Builtin) : Prop :=
  ∃ m ∈ t.members, b ∈ m.builtins

/-- Some overload of a static method of the symbol is bound to the function. -/
def LibrarySymbol.Offers (s : LibrarySymbol) (b : Builtin) : Prop :=
  ∃ m ∈ s.members, ∃ overload ∈ m.signatures, overload.builtin = b

/-- Some name of the catalog stands for a symbol that offers the function. -/
def Catalog.Offers (c : Catalog) (b : Builtin) : Prop :=
  ∃ name s, c.lookup name = some s ∧ s.Offers b

/-- The functions of one double, the checked conversions and the functions of regular expressions. -/
def Builtin.isOfClass : Builtin → Bool
  | math _ | convert _ | regexIsMatch | regexReplace => true
  | _ => false

theorem Builtin.isOfClass_of_takesPattern {b : Builtin} (h : b.takesPattern = true) :
    b.isOfClass = true := by
  unfold takesPattern at h
  split at h
  · rfl
  · rfl
  · cases h

namespace Ty

variable {t : Ty} {b : Builtin}

theorem members_all_not_isOfClass (t : Ty) :
    (t.members.all fun m => m.builtins.all fun b => !b.isOfClass) = true := by
  cases t <;> rfl

/-- No member of a value is bound to a function of a class. -/
theorem Offers.isOfClass_eq_false (h : t.Offers b) : b.isOfClass = false := by
  obtain ⟨m, hm, hb⟩ := h
  have hall := List.all_eq_true.1 (List.all_eq_true.1 t.members_all_not_isOfClass m hm) b hb
  rwa [Bool.not_eq_true'] at hall

theorem Offers.takesPattern_eq_false (h : t.Offers b) : b.takesPattern = false := by
  cases hp : b.takesPattern with
  | false => rfl
  | true =>
      have hclass := Builtin.isOfClass_of_takesPattern hp
      rw [h.isOfClass_eq_false] at hclass
      cases hclass

/-- The values of a type have no constants among their members. -/
theorem not_constant_mem_members {name : String} {ty : Ty} {v : Value} :
    .constant name ty v ∉ t.members := by
  have hall : (t.members.all fun m => !m.builtins.isEmpty) = true := by
    cases t <;> rfl
  intro h
  cases List.all_eq_true.1 hall _ h

theorem offers_of_find?_property {lookup name : String} {ty : Ty}
    (h : Member.find? t.members lookup = some (.property name ty b)) : t.Offers b :=
  ⟨_, List.mem_of_find?_eq_some h, List.mem_singleton_self b⟩

theorem offers_of_mem_signatures {m : Member} (hm : m ∈ t.members) {s : Signature}
    (hs : s ∈ m.signatures) : t.Offers s.builtin := by
  cases m with
  | method name overloads => exact ⟨_, hm, List.mem_map_of_mem hs⟩
  | constant | property => cases hs

end Ty

/-! ### The catalogs that can be composed -/

/-- The builders that a sequence of steps leads to, none of which fails. -/
inductive CatalogBuilder.Composed : CatalogBuilder → Prop where
  | empty : Composed .empty
  | standard : Composed .standard
  | add {b b' : CatalogBuilder} {name : String} (hb : Composed b) (h : b.add name = .ok b') :
    Composed b'
  | remove {b b' : CatalogBuilder} {name : String} (hb : Composed b) (h : b.remove name = .ok b') :
    Composed b'
  | addAlias {b b' : CatalogBuilder} {spelling name : String} (hb : Composed b)
    (h : b.addAlias spelling name = .ok b') : Composed b'

/-- The catalog of the whole library, and those that a builder has composed. -/
inductive Catalog.Composed : Catalog → Prop where
  | standard : Composed .standard
  | built {b : CatalogBuilder} {c : Catalog} (hb : b.Composed) (h : b.build = .ok c) : Composed c

/-- A list of names of which each means a symbol of the library. -/
def CatalogEntry.AllOfLibrary (entries : List CatalogEntry) : Prop :=
  ∀ e ∈ entries, e.symbol ∈ Library.standard

open CatalogEntry (AllOfLibrary)

theorem CatalogEntry.symbol_of_mem_ofSymbol {s : LibrarySymbol} {e : CatalogEntry}
    (h : e ∈ ofSymbol s) : e.symbol = s := by
  obtain ⟨spelling, -, rfl⟩ := List.mem_map.1 h
  rfl

theorem Library.standard_allOfLibrary :
    AllOfLibrary (Library.standard.flatMap CatalogEntry.ofSymbol) := by
  intro e he
  obtain ⟨s, hs, he⟩ := List.mem_flatMap.1 he
  rw [CatalogEntry.symbol_of_mem_ofSymbol he]
  exact hs

namespace CatalogBuilder

variable {b b' : CatalogBuilder} {name : String} {s : LibrarySymbol}

theorem librarySymbol_mem (h : librarySymbol name = .ok s) : s ∈ Library.standard := by
  unfold librarySymbol at h
  split at h
  · rename_i hs
    cases h
    exact List.mem_of_find?_eq_some hs
  · cases h

theorem recordedSymbol_mem (h : b.recordedSymbol name = .ok s) : ∃ e ∈ b.entries, e.symbol = s := by
  unfold recordedSymbol at h
  split at h
  · rename_i e he
    cases h
    exact ⟨e, List.mem_of_find?_eq_some he, rfl⟩
  · cases h

theorem add_allOfLibrary (hb : AllOfLibrary b.entries) (h : b.add name = .ok b') :
    AllOfLibrary b'.entries := by
  obtain ⟨s, hs, rfl⟩ := map_eq_ok h
  split
  · exact hb
  · intro e he
    rcases List.mem_append.1 he with he | he
    · exact hb e he
    · rw [CatalogEntry.symbol_of_mem_ofSymbol he]
      exact librarySymbol_mem hs

theorem remove_allOfLibrary (hb : AllOfLibrary b.entries) (h : b.remove name = .ok b') :
    AllOfLibrary b'.entries := by
  obtain ⟨s, -, rfl⟩ := map_eq_ok h
  exact fun e he => hb e (List.mem_filter.1 he).1

theorem addAlias_allOfLibrary {spelling : String} (hb : AllOfLibrary b.entries)
    (h : b.addAlias spelling name = .ok b') : AllOfLibrary b'.entries := by
  obtain ⟨s, hs, rfl⟩ := map_eq_ok h
  intro e he
  rcases List.mem_append.1 he with he | he
  · exact hb e he
  · obtain ⟨e', he', rfl⟩ := recordedSymbol_mem hs
    rw [List.mem_singleton.1 he]
    exact hb e' he'

theorem Composed.allOfLibrary (h : b.Composed) : AllOfLibrary b.entries := by
  induction h with
  | empty => exact nofun
  | standard => exact Library.standard_allOfLibrary
  | add _ h ih => exact add_allOfLibrary ih h
  | remove _ h ih => exact remove_allOfLibrary ih h
  | addAlias _ h ih => exact addAlias_allOfLibrary ih h

theorem register_subset {c c' : Catalog} {e : CatalogEntry} (h : register c e = .ok c') :
    c'.entries ⊆ c.entries ++ [e] := by
  unfold register at h
  split at h
  · split at h
    · cases h
      exact List.subset_append_left _ _
    · cases h
  · cases h
    exact List.Subset.refl _

theorem registerAll_subset {entries : List CatalogEntry} {c c' : Catalog}
    (h : entries.foldlM register c = .ok c') : c'.entries ⊆ c.entries ++ entries := by
  induction entries generalizing c with
  | nil =>
      cases h
      exact List.subset_append_left _ _
  | cons e entries ih =>
      rw [List.foldlM_cons] at h
      cases hr : register c e with
      | ok c₁ =>
          rw [hr] at h
          refine List.Subset.trans (ih h) (List.append_subset.2 ⟨?_, ?_⟩)
          · refine List.Subset.trans (register_subset hr) ?_
            rw [List.append_cons c.entries e entries]
            exact List.subset_append_left _ _
          · exact List.subset_append_of_subset_right _ (List.subset_cons_self e entries)
      | error err =>
          rw [hr] at h
          cases h

/-- A catalog has no names but those composed. -/
theorem build_subset {c : Catalog} (h : b.build = .ok c) : c.entries ⊆ b.entries :=
  registerAll_subset h

end CatalogBuilder

namespace Catalog

theorem Composed.allOfLibrary {c : Catalog} (h : c.Composed) : AllOfLibrary c.entries := by
  cases h with
  | standard => exact Library.standard_allOfLibrary
  | built hb h =>
      exact fun e he => hb.allOfLibrary e (CatalogBuilder.build_subset h he)

/-- A name of a composed catalog means a symbol of the library. -/
theorem Composed.lookup_mem {c : Catalog} (hc : c.Composed) {name : String} {s : LibrarySymbol}
    (h : c.lookup name = some s) : s ∈ Library.standard := by
  obtain ⟨e, he, rfl⟩ := Option.map_eq_some_iff.1 h
  exact hc.allOfLibrary e (List.mem_of_find?_eq_some he)

/-- What a type name comes to, read from its last character on: what holds of the names of symbols and
is kept by suffixes and white space holds of every name with its type. -/
theorem resolveReversed_induction {c : Catalog} {P : List Char → Ty → Prop}
    (hsymbol : ∀ cs s t, c.lookup (String.ofList (Text.trimStart cs.reverse)) = some s →
      s.target? = some t → P cs t)
    (harray : ∀ cs t, P cs t → P (']' :: '[' :: cs) (.array t))
    (hnullable : ∀ cs t, t.isValueType = true → P cs t → P ('?' :: cs) (.nullable t))
    (hspace : ∀ ch cs t, Text.isSpace ch = true → P cs t → P (ch :: cs) t) {cs : List Char} {t : Ty}
    (h : c.resolveReversed cs = some t) : P cs t := by
  fun_induction resolveReversed c cs generalizing t with
  | case1 cs t' ht hvalue ih =>
      cases h
      exact hnullable cs t' hvalue (ih ht)
  | case4 cs ih =>
      obtain ⟨t', ht, rfl⟩ := Option.map_eq_some_iff.1 h
      exact harray cs t' (ih ht)
  | case5 ch cs _ _ hch ih => exact hspace ch cs t hch (ih h)
  | case6 ch cs =>
      obtain ⟨s, hs, ht⟩ := Option.bind_eq_some_iff.1 h
      exact hsymbol (ch :: cs) s t hs ht
  | case2 | case3 | case7 => cases h

end Catalog

end Elementwise
