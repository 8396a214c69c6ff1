import ConnectorProfiles.Extractor.Catalog
import ConnectorProfiles.Proofs.Dispatch.Policy
import ConnectorProfiles.Proofs.NameMap.Listing
import ConnectorProfiles.Proofs.Text.Shown
import Mathlib.Tactic.TFAE

/-!
# Listings of extractors

A catalog lists the names that extractors were given, and the debug texts of a table and of a
dispatch list the protocols that were given extractors of their own. Every listing ascends and holds
each name once, and a debug text shows the listed names in order and nothing else between quotes. So
runs give the same listings and the same debug texts exactly when they write the same names,
whatever the order of the writes, the number of writes of a name and what is written.
-/

namespace ConnectorProfiles.Extractor

open Text.Outline (plain_list_map_text plain_record_iff texts_list_map_text)

/-! ### Catalogs -/

namespace Catalog

/-- Names extractors in order. -/
def insertAll (c : Catalog) (named : List (String × Extractor)) : Catalog :=
  named.foldl (fun c entry ↦ c.insert entry.1 entry.2) c

/-- How a catalog starts: without extractors, or with the usual one. -/
inductive Start where
  | empty
  | builtins

/-- The catalog that a run starts from. -/
def Start.catalog : Start → Catalog
  | .empty => .empty
  | .builtins => .builtins

/-- What is named in the catalog that a run starts from. -/
def Start.named : Start → List (String × Extractor)
  | .empty => []
  | .builtins => [(credentialSubjectName, credentialSubject credentialsClaim)]

/-- Naming extractors writes them into the map of a catalog. -/
theorem byName_insertAll (c : Catalog) (named : List (String × Extractor)) :
    (c.insertAll named).byName =
      named.foldl (fun m entry ↦ m.insert entry.1 entry.2) c.byName := by
  unfold insertAll
  induction named generalizing c with
  | nil => rfl
  | cons entry named ih => exact ih (c.insert entry.1 entry.2)

/-- A catalog is filled with what it starts with and what is named since. -/
theorem byName_insertAll_start (start : Start) (named : List (String × Extractor)) :
    (start.catalog.insertAll named).byName = NameMap.ofList (start.named ++ named) := by
  rw [byName_insertAll, NameMap.ofList, List.foldl_append]
  cases start with
  | empty | builtins => rfl

section Filled

variable {c : Catalog} {named : List (String × Extractor)} {name : String}

/-- A filled catalog yields under a name the extractor that was named so last. -/
theorem require_eq_ok_iff_last (h : c.byName = NameMap.ofList named) {extractor : Extractor} :
    c.require name = .ok extractor ↔ Last named name extractor := by
  rw [← NameMap.get?_ofList_eq_some_iff, ← h, require, get?]
  cases c.byName.get? name with
  | none => simp
  | some found => simp

/-- A filled catalog does not know the names that no extractor was given. -/
theorem require_of_lacks (h : c.byName = NameMap.ofList named) (hlacks : Lacks named name) :
    c.require name = .error (.unknownExtractor name) := by
  rw [require, get?, h, NameMap.get?_ofList_eq_none_iff.mpr hlacks]

/-- The debug texts of a catalog display the names that it lists. -/
theorem displays_outline (c : Catalog) : c.outline.Displays c.names := by
  have hplain : c.outline.Plain :=
    plain_record_iff.mpr ⟨by simp, by simp, plain_list_map_text c.names⟩
  exact hplain.displays (texts_list_map_text c.names)

/-- What a catalog tells of the extractors that were named in order. It lists their names, and its
debug text displays the listing. It yields the extractor that was named last, which every store
finds that may hold them; and it knows exactly the names that it lists. -/
structure Keeps (c : Catalog) (named : List (String × Extractor)) : Prop where
  lists : IsListing named c.names
  outline : c.outline = .record "ExtractorCatalog" "names" (.list (c.names.map .text)) false
  displays : c.outline.Displays c.names
  found : ∀ held, MayHold named held → ∀ name, findEntry name held = c.get? name
  last : ∀ name extractor, c.require name = .ok extractor ↔ Last named name extractor
  known_iff : ∀ name, (∃ extractor, c.require name = .ok extractor) ↔ name ∈ c.names
  unknown : ∀ name, name ∉ c.names → c.require name = .error (.unknownExtractor name)

/-- A filled catalog keeps what it is filled with. -/
theorem keeps_of_byName_eq (h : c.byName = NameMap.ofList named) : c.Keeps named := by
  have hlists : IsListing named c.names := by
    rw [names, h]
    exact isListing_names_ofList named
  refine ⟨hlists, rfl, c.displays_outline, ?_, fun _ _ ↦ require_eq_ok_iff_last h, ?_, ?_⟩
  · intro held hheld name
    rw [get?, h]
    exact NameMap.findEntry_of_perm hheld.perm name
  · intro name
    simp only [require_eq_ok_iff_last h, hlists.mem_iff, exists_last_iff_mem]
  · intro name hname
    rw [hlists.mem_iff] at hname
    exact require_of_lacks h (lacks_iff_not_mem.mpr hname)

end Filled

end Catalog

/-! ### Tables and dispatches -/

/-- What changes write for single protocols: all that is not written under the reserved key. -/
def dedicatedEntries (changes : List Change) : List (String × Extractor) :=
  (changes.map Change.entry).filter (·.1 != Table.defaultKey)

/-- Some change installs an extractor under the protocol, which is not the reserved key. -/
def Installs (changes : List Change) (protocol : String) : Prop :=
  protocol ≠ Table.defaultKey ∧ ∃ extractor, Change.install protocol extractor ∈ changes

/-- A protocol is written exactly when an extractor is installed under it. -/
theorem mem_dedicatedEntries_iff {changes : List Change} {protocol : String} :
    protocol ∈ (dedicatedEntries changes).map (·.1) ↔ Installs changes protocol := by
  rw [← not_iff_not, ← lacks_iff_not_mem, dedicatedEntries, lacks_filter_iff, Installs]
  by_cases hkey : protocol = Table.defaultKey
  · simp [hkey]
  · simp [hkey, ← not_lacks_entries_iff hkey]

/-- The extractors of single protocols are those that the changes wrote. -/
theorem dedicated_changeAll_new (first : Extractor) (changes : List Change) :
    ((Table.new first).changeAll changes).dedicated =
      NameMap.ofList (dedicatedEntries changes) := by
  ext protocol extractor
  rw [(Table.holds_changeAll_new first changes).dedicated, dedicatedEntries,
    NameMap.get?_ofList_eq_some_iff, last_filter_iff]

/-- A listing of the protocols that changes gave extractors of their own. -/
structure IsDedicatedListing (changes : List Change) (protocols : List String) : Prop where
  lists : IsListing (dedicatedEntries changes) protocols
  mem_iff : ∀ protocol, protocol ∈ protocols ↔ Installs changes protocol

/-- The outline of a table that shows the given protocols. -/
def Table.outlineOf (protocols : List String) : Text.Outline :=
  .record "ExtractorTable" "dedicated" (.list (protocols.map .text)) true

/-- The outline of a table has no double quote in its labels. -/
theorem plain_outlineOf (protocols : List String) : (Table.outlineOf protocols).Plain :=
  plain_record_iff.mpr ⟨by simp, by simp, plain_list_map_text protocols⟩

/-- The debug texts of a table display the protocols that its outline shows. -/
theorem displays_outlineOf (protocols : List String) :
    (Table.outlineOf protocols).Displays protocols :=
  (plain_outlineOf protocols).displays (texts_list_map_text protocols)

/-- The debug texts of a dispatch display what those of its table do. -/
theorem displays_record_outlineOf (protocols : List String) :
    (Text.Outline.record "IdExtractionDispatch" "extractors" (Table.outlineOf protocols)
      false).Displays protocols := by
  apply Text.Outline.Plain.displays
  · exact plain_record_iff.mpr ⟨by simp, by simp, plain_outlineOf protocols⟩
  · exact texts_list_map_text protocols

/-- The outline of a table shows a listing of the protocols with extractors of their own, and so do
its debug texts. -/
theorem exists_outline_changeAll_new (first : Extractor) (changes : List Change) :
    ∃ protocols, IsDedicatedListing changes protocols ∧
      ((Table.new first).changeAll changes).outline = Table.outlineOf protocols ∧
      ((Table.new first).changeAll changes).outline.Displays protocols := by
  have hlists := isListing_names_ofList (dedicatedEntries changes)
  have houtline : ((Table.new first).changeAll changes).outline =
      Table.outlineOf (NameMap.ofList (dedicatedEntries changes)).names := by
    rw [Table.outline, dedicated_changeAll_new, Table.outlineOf]
  rw [houtline]
  refine ⟨_, ⟨hlists, ?_⟩, rfl, displays_outlineOf _⟩
  intro protocol
  rw [hlists.mem_iff, mem_dedicatedEntries_iff]

/-- The outline of a dispatch shows that of its extractors, and extractions leave no trace. -/
theorem outline_ofUses (first : Extractor) (uses : List Dispatch.Use) :
    (Dispatch.ofUses first uses).outline = .record "IdExtractionDispatch" "extractors"
      ((Table.new first).changeAll (uses.filterMap Dispatch.Use.change?)).outline false := by
  rw [Dispatch.ofUses_eq, Dispatch.ofChanges_eq, Dispatch.outline]

/-- The outline of a dispatch shows a listing of the protocols with extractors of their own, and so
do its debug texts. -/
theorem exists_outline_ofUses (first : Extractor) (uses : List Dispatch.Use) :
    ∃ protocols, IsDedicatedListing (uses.filterMap Dispatch.Use.change?) protocols ∧
      (Dispatch.ofUses first uses).outline =
        .record "IdExtractionDispatch" "extractors" (Table.outlineOf protocols) false ∧
      (Dispatch.ofUses first uses).outline.Displays protocols := by
  obtain ⟨protocols, hprotocols, houtline, -⟩ :=
    exists_outline_changeAll_new first (uses.filterMap Dispatch.Use.change?)
  rw [outline_ofUses, houtline]
  exact ⟨protocols, hprotocols, rfl, displays_record_outlineOf protocols⟩

/-! ### Runs in different orders -/

/-- Outlines have the same debug texts, on one line and with one part on each line. -/
structure SameTexts (a b : Text.Outline) : Prop where
  line : a.line = b.line
  block : a.block 0 = b.block 0

/-- Catalogs list the same names, and have the same debug texts, exactly when the same names were
written. -/
theorem Catalog.tfae_same_names (start other : Start) (named renamed : List (String × Extractor)) :
    List.TFAE [
      ∀ name, name ∈ (start.named ++ named).map (·.1) ↔ name ∈ (other.named ++ renamed).map (·.1),
      (start.catalog.insertAll named).names = (other.catalog.insertAll renamed).names,
      SameTexts (start.catalog.insertAll named).outline
        (other.catalog.insertAll renamed).outline] := by
  have hfirst := keeps_of_byName_eq (byName_insertAll_start start named)
  have hsecond := keeps_of_byName_eq (byName_insertAll_start other renamed)
  tfae_have 1 → 2 := hfirst.lists.eq_of_same_names hsecond.lists
  tfae_have 2 → 3 := by
    intro hnames
    rw [hfirst.outline, hsecond.outline, hnames]
    exact ⟨rfl, rfl⟩
  tfae_have 3 → 1 := by
    intro htexts name
    have hnames := hfirst.displays.inj hsecond.displays htexts.line
    rw [← hfirst.lists.mem_iff, hnames, hsecond.lists.mem_iff]
  tfae_finish

/-- Outlines of two listings that display them have the same debug texts exactly when the listings
are of the same protocols. -/
theorem IsDedicatedListing.iff_sameTexts {changes other : List Change}
    {protocols others : List String} (h : IsDedicatedListing changes protocols)
    (h' : IsDedicatedListing other others) {outlineOf : List String → Text.Outline}
    (hdisplays : ∀ names, (outlineOf names).Displays names) :
    (∀ protocol, Installs changes protocol ↔ Installs other protocol) ↔
      SameTexts (outlineOf protocols) (outlineOf others) := by
  constructor
  · intro hsame
    have heq : protocols = others := by
      apply h.lists.eq_of_same_names h'.lists
      intro protocol
      rw [mem_dedicatedEntries_iff, mem_dedicatedEntries_iff, hsame]
    rw [heq]
    exact ⟨rfl, rfl⟩
  · intro htexts protocol
    have heq := (hdisplays protocols).inj (hdisplays others) htexts.line
    rw [← h.mem_iff, heq, h'.mem_iff]

/-- Tables have the same debug texts exactly when the same protocols have extractors of their
own. -/
theorem installs_iff_sameTexts_changeAll (first second : Extractor) (changes other : List Change) :
    (∀ protocol, Installs changes protocol ↔ Installs other protocol) ↔
      SameTexts ((Table.new first).changeAll changes).outline
        ((Table.new second).changeAll other).outline := by
  obtain ⟨protocols, hprotocols, hfirst, -⟩ := exists_outline_changeAll_new first changes
  obtain ⟨others, hothers, hsecond, -⟩ := exists_outline_changeAll_new second other
  rw [hfirst, hsecond]
  exact hprotocols.iff_sameTexts hothers displays_outlineOf

/-- Dispatches have the same debug texts exactly when the same protocols have extractors of their
own. -/
theorem installs_iff_sameTexts_ofUses (first second : Extractor) (uses other : List Dispatch.Use) :
    (∀ protocol, Installs (uses.filterMap Dispatch.Use.change?) protocol ↔
      Installs (other.filterMap Dispatch.Use.change?) protocol) ↔
      SameTexts (Dispatch.ofUses first uses).outline (Dispatch.ofUses second other).outline := by
  obtain ⟨protocols, hprotocols, hfirst, -⟩ := exists_outline_ofUses first uses
  obtain ⟨others, hothers, hsecond, -⟩ := exists_outline_ofUses second other
  rw [hfirst, hsecond]
  exact hprotocols.iff_sameTexts hothers displays_record_outlineOf

/-- Every catalog keeps what is named in it, and the debug texts of every table and of every
dispatch display a listing of the protocols with extractors of their own. Runs end with the same
listings and debug texts exactly when they write the same names. -/
theorem listings_forget_order :
    (∀ (start : Catalog.Start) named,
      (start.catalog.insertAll named).Keeps (start.named ++ named)) ∧
    (∀ first changes, ∃ protocols, IsDedicatedListing changes protocols ∧
      ((Table.new first).changeAll changes).outline = Table.outlineOf protocols ∧
      ((Table.new first).changeAll changes).outline.Displays protocols) ∧
    (∀ first uses, ∃ protocols,
      IsDedicatedListing (uses.filterMap Dispatch.Use.change?) protocols ∧
      (Dispatch.ofUses first uses).outline =
        .record "IdExtractionDispatch" "extractors" (Table.outlineOf protocols) false ∧
      (Dispatch.ofUses first uses).outline.Displays protocols) ∧
    (∀ (start other : Catalog.Start) named renamed, List.TFAE [
      ∀ name, name ∈ (start.named ++ named).map (·.1) ↔ name ∈ (other.named ++ renamed).map (·.1),
      (start.catalog.insertAll named).names = (other.catalog.insertAll renamed).names,
      SameTexts (start.catalog.insertAll named).outline
        (other.catalog.insertAll renamed).outline]) ∧
    (∀ first second changes other,
      (∀ protocol, Installs changes protocol ↔ Installs other protocol) ↔
      SameTexts ((Table.new first).changeAll changes).outline
        ((Table.new second).changeAll other).outline) ∧
    ∀ first second uses other,
      (∀ protocol, Installs (uses.filterMap Dispatch.Use.change?) protocol ↔
        Installs (other.filterMap Dispatch.Use.change?) protocol) ↔
      SameTexts (Dispatch.ofUses first uses).outline (Dispatch.ofUses second other).outline := by
  refine ⟨?_, exists_outline_changeAll_new, exists_outline_ofUses, Catalog.tfae_same_names,
    installs_iff_sameTexts_changeAll, installs_iff_sameTexts_ofUses⟩
  intro start named
  exact Catalog.keeps_of_byName_eq (Catalog.byName_insertAll_start start named)

/-! ### Two orders of the same names -/

/-- Two extractors, one of which is replaced. -/
def sampleNamed : List (String × Extractor) :=
  [("fixed", fun _ ↦ none), ("claim", fun _ ↦ none), ("fixed", fun _ ↦ some "did:web:fixed")]

/-- The same names and that of the usual extractor, in another order. -/
def shuffledNamed : List (String × Extractor) :=
  [("claim", fun _ ↦ none), ("fixed", fun _ ↦ none), ("credential-subject", fun _ ↦ none)]

/-- Extractors for two protocols, one of which is replaced, and one under the reserved key. -/
def sampleInstalls : List Change :=
  [.install "dsp" fun _ ↦ none, .install "default" fun _ ↦ none, .install "dcp" fun _ ↦ none,
    .install "dsp" fun _ ↦ some "did:web:fixed"]

/-- Extractors for the same protocols, in another order. -/
def shuffledInstalls : List Change :=
  [.install "dcp" fun _ ↦ some "did:web:fixed", .replaceFallback fun _ ↦ none,
    .install "dsp" fun _ ↦ none]

/-- Where the usual extractor is there from the start, the names are the same in the end. -/
theorem mem_sampleNamed_iff (name : String) :
    name ∈ (Catalog.Start.builtins.named ++ sampleNamed).map (·.1) ↔
      name ∈ (Catalog.Start.empty.named ++ shuffledNamed).map (·.1) := by
  have hsample : (Catalog.Start.builtins.named ++ sampleNamed).map (·.1) =
      ["credential-subject", "fixed", "claim", "fixed"] := rfl
  have hshuffled : (Catalog.Start.empty.named ++ shuffledNamed).map (·.1) =
      ["claim", "fixed", "credential-subject"] := rfl
  rw [hsample, hshuffled]
  grind

/-- Extractors are installed under the same protocols. -/
theorem installs_sampleInstalls_iff (protocol : String) :
    Installs sampleInstalls protocol ↔ Installs shuffledInstalls protocol := by
  have hsample : (dedicatedEntries sampleInstalls).map (·.1) = ["dsp", "dcp", "dsp"] := rfl
  have hshuffled : (dedicatedEntries shuffledInstalls).map (·.1) = ["dcp", "dsp"] := rfl
  rw [← mem_dedicatedEntries_iff, ← mem_dedicatedEntries_iff, hsample, hshuffled]
  grind

/-- What a store may hold after the first names were written, in descending order. -/
def sampleHeld : List (String × Extractor) :=
  [("fixed", fun _ ↦ some "did:web:fixed"), ("claim", fun _ ↦ none)]

/-- A store may hold the first names in descending order. -/
theorem mayHold_sampleHeld : MayHold sampleNamed sampleHeld := by
  have hfirst : MayHold ([] ++ [sampleNamed[0]]) [sampleNamed[0]] := .write .empty (.refl _)
  have hsecond : MayHold ([] ++ [sampleNamed[0]] ++ [sampleNamed[1]])
      [sampleNamed[0], sampleNamed[1]] := .write hfirst (.swap _ _ _)
  exact .write hsecond (.refl _)

/-- The sorted names of a store do not show its order. A catalog that starts with the usual
extractor and one that is given it last end with the same names; tables, and dispatches of which one
extracts an id at first, end with the same debug texts. -/
theorem shuffled_runs_look_alike :
    MayHold sampleNamed sampleHeld ∧ SortedNames sampleHeld ["claim", "fixed"] ∧
    (∀ name, name ∈ (Catalog.Start.builtins.named ++ sampleNamed).map (·.1) ↔
      name ∈ (Catalog.Start.empty.named ++ shuffledNamed).map (·.1)) ∧
    (Catalog.builtins.insertAll sampleNamed).names =
      (Catalog.empty.insertAll shuffledNamed).names ∧
    (∀ protocol, Installs sampleInstalls protocol ↔ Installs shuffledInstalls protocol) ∧
    SameTexts ((Table.new fun _ ↦ none).changeAll sampleInstalls).outline
      ((Table.new fun _ ↦ none).changeAll shuffledInstalls).outline ∧
    SameTexts
      (Dispatch.ofUses (fun _ ↦ none)
        (.extract .empty "dsp" :: sampleInstalls.map .change)).outline
      (Dispatch.ofUses (fun _ ↦ none) (shuffledInstalls.map .change)).outline := by
  obtain ⟨hkeeps, -, -, hcatalogs, htables, hdispatches⟩ := listings_forget_order
  have hsorted : SortedNames sampleHeld ["claim", "fixed"] :=
    ((hkeeps .empty sampleNamed).lists.sorted_iff _ mayHold_sampleHeld _).mpr rfl
  refine ⟨mayHold_sampleHeld, hsorted, mem_sampleNamed_iff, ?_, installs_sampleInstalls_iff,
    (htables _ _ _ _).mp installs_sampleInstalls_iff, ?_⟩
  · exact ((hcatalogs .builtins .empty _ _).out 0 1).mp mem_sampleNamed_iff
  · exact (hdispatches _ _ (.extract .empty "dsp" :: sampleInstalls.map .change)
      (shuffledInstalls.map .change)).mp installs_sampleInstalls_iff

/-- The reserved key is not shown, and a protocol is shown once. -/
example : ((Table.new fun _ ↦ none).changeAll sampleInstalls).outline.line =
    "ExtractorTable \x7b dedicated: [\"dcp\", \"dsp\"], .. \x7d" := by
  decide

end ConnectorProfiles.Extractor
