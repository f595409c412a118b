import Elementwise.Proofs.Library.AllowList
import Mathlib.Data.List.Basic
import Mathlib.Data.List.Induction

/-!
Building a catalog.  What a builder has recorded is turned into a catalog one name after another,
and this fails only at a name that has come to mean two symbols.  The catalog lists the symbols in
the order in which they were recorded first, and finds each by all its names and by no other.
-/

namespace Elementwise

open CatalogEntry (AllOfLibrary)

variable {e : CatalogEntry} {entries done : List CatalogEntry} {c c' : Catalog}
  {s : LibrarySymbol}

/-- Symbols of the library with one name are one symbol. -/
theorem CatalogEntry.names_iff (he : e.symbol ∈ Library.standard) (hs : s ∈ Library.standard) :
    e.names s = true ↔ e.symbol = s := by
  refine ⟨fun h => ?_, fun h => beq_iff_eq.2 (congrArg _ h)⟩
  have hname : e.symbol.name = s.name := beq_iff_eq.1 h
  have hkey : Text.fold s.name ∈ s.keys := List.mem_cons_self ..
  have hkey' : Text.fold s.name ∈ e.symbol.keys := by
    rw [← hname]
    exact List.mem_cons_self ..
  exact Library.symbol_eq_of_mem_keys hs he hkey hkey'

/-- How many names come before the first one of a symbol. -/
def CatalogEntry.firstPosition (entries : List CatalogEntry) (s : LibrarySymbol) : ℕ :=
  (entries.map (·.symbol.name)).idxOf s.name

open CatalogEntry (firstPosition)

/-! ### Symbols in their order -/

namespace Catalog

theorem symbols_append_singleton (entries : List CatalogEntry) (e : CatalogEntry) :
    (mk (entries ++ [e])).symbols =
      if (mk entries).symbols.any e.names then (mk entries).symbols
      else (mk entries).symbols ++ [e.symbol] := by
  rw [symbols, List.foldl_append]
  rfl

/-- The symbols of a catalog are those that its names mean. -/
theorem mem_symbols_iff (hall : AllOfLibrary entries) :
    s ∈ (mk entries).symbols ↔ ∃ e ∈ entries, e.symbol = s := by
  induction entries using List.reverseRecOn generalizing s with
  | nil => exact ⟨nofun, nofun⟩
  | append_singleton entries e ih =>
      obtain ⟨hall, he⟩ := List.forall_mem_append.1 hall
      rw [symbols_append_singleton]
      simp only [List.mem_append, List.mem_singleton, or_and_right, exists_or, exists_eq_left]
      split
      · rename_i hany
        obtain ⟨t, ht, hnames⟩ := List.any_eq_true.1 hany
        obtain ⟨e', he', rfl⟩ := (ih hall).1 ht
        have he := he e (List.mem_singleton_self e)
        have hsame := (CatalogEntry.names_iff he (hall e' he')).1 hnames
        refine (ih hall).trans ⟨Or.inl, ?_⟩
        rintro (h | rfl)
        · exact h
        · exact ⟨e', he', hsame.symm⟩
      · rw [List.mem_append, ih hall, List.mem_singleton, eq_comm (a := s)]

theorem any_names_iff (hall : AllOfLibrary entries) (he : e.symbol ∈ Library.standard) :
    (mk entries).symbols.any e.names = true ↔ e.symbol ∈ (mk entries).symbols := by
  refine ⟨fun h => ?_, fun h => List.any_eq_true.2 ⟨_, h, beq_self_eq_true _⟩⟩
  obtain ⟨t, ht, hnames⟩ := List.any_eq_true.1 h
  obtain ⟨e', he', rfl⟩ := (mem_symbols_iff hall).1 ht
  exact (CatalogEntry.names_iff he (hall e' he')).1 hnames ▸ ht

theorem firstPosition_append (hall : AllOfLibrary entries) (hs : s ∈ (mk entries).symbols)
    (more : List CatalogEntry) : firstPosition (entries ++ more) s = firstPosition entries s := by
  obtain ⟨e, he, rfl⟩ := (mem_symbols_iff hall).1 hs
  rw [firstPosition, List.map_append]
  exact List.idxOf_append_of_mem (List.mem_map_of_mem he)

theorem firstPosition_lt (hall : AllOfLibrary entries) (hs : s ∈ (mk entries).symbols) :
    firstPosition entries s < entries.length := by
  obtain ⟨e, he, rfl⟩ := (mem_symbols_iff hall).1 hs
  refine lt_of_lt_of_eq ?_ (List.length_map (·.symbol.name))
  exact List.idxOf_lt_length_of_mem (List.mem_map_of_mem he)

theorem length_le_firstPosition (hall : AllOfLibrary entries) (hlib : s ∈ Library.standard)
    (hs : s ∉ (mk entries).symbols) (more : List CatalogEntry) :
    entries.length ≤ firstPosition (entries ++ more) s := by
  have habsent : s.name ∉ entries.map (·.symbol.name) := fun hmem => by
    obtain ⟨e, he, hname⟩ := List.mem_map.1 hmem
    have hsame := (CatalogEntry.names_iff (hall e he) hlib).1 (beq_iff_eq.2 hname)
    exact hs ((mem_symbols_iff hall).2 ⟨e, he, hsame⟩)
  rw [firstPosition, List.map_append, List.idxOf_append_of_notMem habsent, List.length_map]
  exact Nat.le_add_right _ _

/-- The symbols of a catalog are listed in the order of their first names, each once. -/
theorem symbols_ordered (hall : AllOfLibrary entries) :
    (mk entries).symbols.Pairwise fun s t => firstPosition entries s < firstPosition entries t := by
  induction entries using List.reverseRecOn with
  | nil => exact .nil
  | append_singleton entries e ih =>
      obtain ⟨hall, he⟩ := List.forall_mem_append.1 hall
      have he := he e (List.mem_singleton_self e)
      have hold : (mk entries).symbols.Pairwise fun s t =>
          firstPosition (entries ++ [e]) s < firstPosition (entries ++ [e]) t := by
        refine (ih hall).imp_of_mem fun hs ht hlt => ?_
        rw [firstPosition_append hall hs, firstPosition_append hall ht]
        exact hlt
      rw [symbols_append_singleton]
      split
      · exact hold
      · rename_i hnew
        rw [any_names_iff hall he] at hnew
        refine List.pairwise_append.2 ⟨hold, List.pairwise_singleton _ _, fun s hs t ht => ?_⟩
        obtain rfl := List.mem_singleton.1 ht
        rw [firstPosition_append hall hs]
        exact Nat.lt_of_lt_of_le (firstPosition_lt hall hs) (length_le_firstPosition hall he hnew [e])

end Catalog

/-! ### Registration -/

namespace CatalogBuilder

/-- Two names are one in every letter case but mean two symbols. -/
def Clash (e e' : CatalogEntry) : Prop :=
  e.key = e'.key ∧ e.symbol ≠ e'.symbol

/-- What has come to a catalog from the names registered so far. -/
structure Registered (done : List CatalogEntry) (c : Catalog) : Prop where
  subset : c.entries ⊆ done
  found : ∀ e ∈ done, ∃ e', c.find? e.key = some e' ∧ e'.symbol = e.symbol
  symbols : c.symbols = (Catalog.mk done).symbols

/-- One more name is registered, unless it clashes with one that is there. -/
theorem register_step (hall : AllOfLibrary (done ++ [e])) (hc : Registered done c) :
    (∃ c', register c e = .ok c' ∧ Registered (done ++ [e]) c') ∨
      ∃ e' ∈ done, Clash e e' ∧ register c e = .error (.collision e.spelling e'.spelling) := by
  obtain ⟨hall, he⟩ := List.forall_mem_append.1 hall
  have he := he e (List.mem_singleton_self e)
  cases hfind : c.find? e.key with
  | some e' =>
      obtain ⟨hmem, hkey⟩ := Catalog.mem_of_find? hfind
      have hmem := hc.subset hmem
      have hnames := CatalogEntry.names_iff (hall e' hmem) he
      by_cases hsame : e'.symbol = e.symbol
      · refine .inl ⟨c, ?_, ?_, ?_, ?_⟩
        · rw [register, hfind]
          exact if_pos (hnames.2 hsame)
        · exact List.Subset.trans hc.subset (List.subset_append_left _ _)
        · refine List.forall_mem_append.2 ⟨hc.found, ?_⟩
          exact List.forall_mem_singleton.2 ⟨e', hfind, hsame⟩
        · have hlisted := (Catalog.mem_symbols_iff hall).2 ⟨e', hmem, hsame⟩
          rw [Catalog.symbols_append_singleton, if_pos ((Catalog.any_names_iff hall he).2 hlisted)]
          exact hc.symbols
      · refine .inr ⟨e', hmem, ⟨hkey.symm, Ne.symm hsame⟩, ?_⟩
        rw [register, hfind]
        exact if_neg fun h => hsame (hnames.1 h)
  | none =>
      refine .inl ⟨⟨c.entries ++ [e]⟩, ?_, ?_, ?_, ?_⟩
      · rw [register, hfind]
      · exact List.append_subset.2 ⟨List.Subset.trans hc.subset (List.subset_append_left _ _),
          List.subset_append_right _ _⟩
      · refine List.forall_mem_append.2 ⟨fun e₁ he₁ => ?_, List.forall_mem_singleton.2 ⟨e, ?_, rfl⟩⟩
        · obtain ⟨e', hfound, hsame⟩ := hc.found e₁ he₁
          exact ⟨e', List.find?_append.trans (congrArg (Option.or · _) hfound), hsame⟩
        · have hnone : c.entries.find? (·.key == e.key) = none := hfind
          rw [Catalog.find?, List.find?_append, hnone, Option.none_or]
          exact List.find?_cons_of_pos (p := fun x : CatalogEntry => x.key == e.key) (beq_self_eq_true _)
      · rw [Catalog.symbols_append_singleton, Catalog.symbols_append_singleton, ← hc.symbols]

/-- All names are registered, unless two of them clash. -/
theorem registerAll_run (hall : AllOfLibrary (done ++ entries)) (hc : Registered done c) :
    (∃ c', entries.foldlM register c = .ok c' ∧ Registered (done ++ entries) c') ∨
      ∃ e ∈ entries, ∃ e' ∈ done ++ entries, Clash e e' ∧
        entries.foldlM register c = .error (.collision e.spelling e'.spelling) := by
  induction entries generalizing done c with
  | nil => exact .inl ⟨c, rfl, by rwa [List.append_nil]⟩
  | cons e entries ih =>
      rw [List.append_cons] at hall ⊢
      rw [List.foldlM_cons]
      rcases register_step (List.forall_mem_append.1 hall).1 hc with
        ⟨c₁, hr, hc₁⟩ | ⟨e', he', hclash, hr⟩
      · rw [hr, ok_bind]
        rcases ih hall hc₁ with hok | ⟨e₂, he₂, hrest⟩
        · exact .inl hok
        · exact .inr ⟨e₂, List.mem_cons_of_mem e he₂, hrest⟩
      · refine .inr ⟨e, List.mem_cons_self, e', ?_, hclash, by rw [hr]; rfl⟩
        exact List.mem_append_left _ (List.mem_append_left _ he')

/-! ### What a builder has recorded -/

variable {b b' : CatalogBuilder} {name spelling : String}

def Records (b : CatalogBuilder) (s : LibrarySymbol) (spelling : String) : Prop :=
  ∃ e ∈ b.entries, e.symbol = s ∧ e.spelling = spelling

/-- Two recorded spellings differ at most in letter case but are recorded for two symbols. -/
def Clashes (b : CatalogBuilder) : Prop :=
  ∃ s t spelling spelling', b.Records s spelling ∧ b.Records t spelling' ∧
    Text.fold spelling = Text.fold spelling' ∧ s ≠ t

/-- The name is, up to letter case, one of a symbol's own or one recorded for it. -/
def NamedBy (b : CatalogBuilder) (s : LibrarySymbol) (name : String) : Prop :=
  ∃ spelling, (spelling ∈ s.spellings ∨ b.Records s spelling) ∧ Text.fold name = Text.fold spelling

/-- What every builder keeps: symbols of the library are recorded, each with all its own names. -/
structure Sound (b : CatalogBuilder) : Prop where
  library : AllOfLibrary b.entries
  keys : ∀ e ∈ b.entries, e.key = Text.fold e.spelling
  complete : ∀ e ∈ b.entries, ∀ spelling ∈ e.symbol.spellings, b.Records e.symbol spelling

theorem Records.append (h : b.Records s spelling) (more : List CatalogEntry) :
    Records ⟨b.entries ++ more⟩ s spelling := by
  obtain ⟨e, he, hs⟩ := h
  exact ⟨e, List.mem_append_left _ he, hs⟩

theorem keys_ofSymbol (s : LibrarySymbol) :
    ∀ e ∈ CatalogEntry.ofSymbol s, e.key = Text.fold e.spelling := by
  intro e he
  obtain ⟨spelling, -, rfl⟩ := List.mem_map.1 he
  rfl

/-- A symbol is added with all its names. -/
theorem records_of_ofSymbol (h : CatalogEntry.ofSymbol s ⊆ b.entries) :
    ∀ e ∈ CatalogEntry.ofSymbol s, ∀ spelling ∈ e.symbol.spellings, b.Records e.symbol spelling := by
  intro e he spelling hmem
  obtain rfl := CatalogEntry.symbol_of_mem_ofSymbol he
  exact ⟨_, h (List.mem_map_of_mem hmem), rfl, rfl⟩

theorem standard_sound : Sound .standard where
  library := Library.standard_allOfLibrary
  keys e he := by
    obtain ⟨s, -, he⟩ := List.mem_flatMap.1 he
    exact keys_ofSymbol s e he
  complete e he := by
    obtain ⟨s, hs, he⟩ := List.mem_flatMap.1 he
    exact records_of_ofSymbol (fun e' he' => List.mem_flatMap.2 ⟨s, hs, he'⟩) e he

theorem Sound.add (hb : b.Sound) (h : b.add name = .ok b') : b'.Sound := by
  have hlibrary := add_allOfLibrary hb.library h
  obtain ⟨s, -, hs⟩ := map_eq_ok h
  split at hs
  · exact hs ▸ hb
  · subst hs
    refine ⟨hlibrary, List.forall_mem_append.2 ⟨hb.keys, keys_ofSymbol s⟩, ?_⟩
    refine List.forall_mem_append.2 ⟨fun e he spelling hmem => ?_, ?_⟩
    · exact (hb.complete e he spelling hmem).append _
    · exact records_of_ofSymbol (List.subset_append_right _ _)

theorem Sound.remove (hb : b.Sound) (h : b.remove name = .ok b') : b'.Sound := by
  have hlibrary := remove_allOfLibrary hb.library h
  obtain ⟨s, -, rfl⟩ := map_eq_ok h
  refine ⟨hlibrary, fun e he => hb.keys e (List.mem_filter.1 he).1, fun e he spelling hmem => ?_⟩
  obtain ⟨he, hkept⟩ := List.mem_filter.1 he
  obtain ⟨e', he', hsame, hspelling⟩ := hb.complete e he spelling hmem
  refine ⟨e', List.mem_filter.2 ⟨he', ?_⟩, hsame, hspelling⟩
  rw [CatalogEntry.names, hsame]
  exact hkept

theorem Sound.addAlias (hb : b.Sound) (h : b.addAlias spelling name = .ok b') : b'.Sound := by
  have hlibrary := addAlias_allOfLibrary hb.library h
  obtain ⟨s, hs, rfl⟩ := map_eq_ok h
  obtain ⟨e₀, he₀, rfl⟩ := recordedSymbol_mem hs
  refine ⟨hlibrary, List.forall_mem_append.2 ⟨hb.keys, List.forall_mem_singleton.2 rfl⟩, ?_⟩
  refine List.forall_mem_append.2 ⟨fun e he p hp => (hb.complete e he p hp).append _, ?_⟩
  exact List.forall_mem_singleton.2 fun p hp => (hb.complete e₀ he₀ p hp).append _

theorem Composed.sound (hb : b.Composed) : b.Sound := by
  induction hb with
  | empty => exact ⟨nofun, nofun, nofun⟩
  | standard => exact standard_sound
  | add _ h ih => exact ih.add h
  | remove _ h ih => exact ih.remove h
  | addAlias _ h ih => exact ih.addAlias h

/-! ### Built catalogs -/

/-- The catalog has the symbols recorded, in the order in which they were recorded first, and finds
each under all its names and under no others. -/
structure Represents (b : CatalogBuilder) (c : Catalog) : Prop where
  nodup : c.symbols.Nodup
  ordered : c.symbols.Pairwise fun s t => firstPosition b.entries s < firstPosition b.entries t
  mem_symbols : ∀ s, s ∈ c.symbols ↔ ∃ spelling, b.Records s spelling
  lookup : ∀ name s, c.lookup name = some s ↔ s ∈ c.symbols ∧ b.NamedBy s name

theorem Sound.clashes (hb : b.Sound) {e e' : CatalogEntry} (he : e ∈ b.entries)
    (he' : e' ∈ b.entries) (h : Clash e e') : b.Clashes := by
  refine ⟨_, _, _, _, ⟨e, he, rfl, rfl⟩, ⟨e', he', rfl, rfl⟩, ?_, h.2⟩
  rw [← hb.keys e he, ← hb.keys e' he']
  exact h.1

theorem Registered.not_clashes (hb : b.Sound) (hc : Registered b.entries c) : ¬ b.Clashes := by
  rintro ⟨_, _, _, _, ⟨e, he, rfl, rfl⟩, ⟨e', he', rfl, rfl⟩, hfold, hne⟩
  rw [← hb.keys e he, ← hb.keys e' he'] at hfold
  obtain ⟨e₁, hfound, hsame⟩ := hc.found e he
  obtain ⟨e₂, hfound', hsame'⟩ := hc.found e' he'
  rw [hfold, hfound'] at hfound
  obtain rfl := Option.some.inj hfound
  exact hne (hsame.symm.trans hsame')

theorem Registered.represents (hb : b.Sound) (hc : Registered b.entries c) : b.Represents c := by
  have hmem : ∀ s, s ∈ c.symbols ↔ ∃ spelling, b.Records s spelling := fun s => by
    rw [hc.symbols, Catalog.mem_symbols_iff hb.library]
    exact ⟨fun ⟨e, he, hs⟩ => ⟨e.spelling, e, he, hs, rfl⟩, fun ⟨_, e, he, hs, _⟩ => ⟨e, he, hs⟩⟩
  have hordered : c.symbols.Pairwise fun s t =>
      firstPosition b.entries s < firstPosition b.entries t := by
    rw [hc.symbols]
    exact Catalog.symbols_ordered hb.library
  refine ⟨hordered.imp fun hlt => ?_, hordered, hmem, fun name s => ⟨fun h => ?_, ?_⟩⟩
  · rintro rfl
    exact Nat.lt_irrefl _ hlt
  · obtain ⟨e, he, rfl⟩ := Option.map_eq_some_iff.1 h
    obtain ⟨he, hkey⟩ := Catalog.mem_of_find? he
    have he := hc.subset he
    have hrecords : b.Records e.symbol e.spelling := ⟨e, he, rfl, rfl⟩
    exact ⟨(hmem _).2 ⟨_, hrecords⟩, e.spelling, .inr hrecords, hkey ▸ hb.keys e he⟩
  · rintro ⟨hs, spelling, hspelling, hfold⟩
    have hrecords : b.Records s spelling := by
      obtain ⟨_, e₀, he₀, rfl, -⟩ := (hmem s).1 hs
      exact hspelling.elim (hb.complete e₀ he₀ spelling) id
    obtain ⟨e, he, rfl, rfl⟩ := hrecords
    obtain ⟨e', hfound, hsame⟩ := hc.found e he
    rw [Catalog.lookup, hfold, ← hb.keys e he, hfound, Option.map_some, hsame]

/-- A builder that steps have led to is built unless two of the names recorded clash, which is
reported then, and the catalog built represents what was recorded. -/
theorem Composed.build_represents (hb : b.Composed) :
    ((∃ spelling existing, b.build = .error (.collision spelling existing)) ↔ b.Clashes) ∧
      ((∃ c, b.build = .ok c) ↔ ¬ b.Clashes) ∧
      ∀ c, b.build = .ok c → b.Represents c := by
  have hsound := hb.sound
  have hall : AllOfLibrary ([] ++ b.entries) := hsound.library
  have hstart : Registered [] ⟨[]⟩ := ⟨List.Subset.refl _, nofun, rfl⟩
  rcases registerAll_run hall hstart with ⟨c, hbuild, hc⟩ | ⟨e, he, e', he', hclash, hbuild⟩
  · have hbuild : b.build = .ok c := hbuild
    have hno := hc.not_clashes hsound
    rw [hbuild]
    refine ⟨⟨nofun, fun h => absurd h hno⟩, ⟨fun _ => hno, fun _ => ⟨c, rfl⟩⟩, ?_⟩
    rintro _ ⟨⟩
    exact hc.represents hsound
  · have hbuild : b.build = .error (.collision e.spelling e'.spelling) := hbuild
    have hclashes := hsound.clashes he he' hclash
    rw [hbuild]
    exact ⟨⟨fun _ => hclashes, fun _ => ⟨_, _, rfl⟩⟩, ⟨nofun, fun h => absurd hclashes h⟩, nofun⟩

theorem build_represents_whole : ∃ b₁ b₂ b c,
    CatalogBuilder.empty.add "Int64" = .ok b₁ ∧ b₁.add "int" = .ok b₂ ∧
      b₂.addAlias "Whole" "LONG" = .ok b ∧ b.build = .ok c ∧ b.Represents c := by
  let run := do
    let b ← CatalogBuilder.empty.add "Int64"
    let b ← b.add "int"
    let b ← b.addAlias "Whole" "LONG"
    b.build
  have hrun : run.toBool = true := by decide +kernel
  cases hbuild : run with
  | error err => rw [hbuild] at hrun; cases hrun
  | ok c =>
      obtain ⟨b₁, h₁, hbuild⟩ := bind_eq_ok hbuild
      obtain ⟨b₂, h₂, hbuild⟩ := bind_eq_ok hbuild
      obtain ⟨b, h, hbuild⟩ := bind_eq_ok hbuild
      have hb : b.Composed := .addAlias (.add (.add .empty h₁) h₂) h
      exact ⟨b₁, b₂, b, c, h₁, h₂, h, hbuild, hb.build_represents.2.2 c hbuild⟩

end CatalogBuilder

end Elementwise
