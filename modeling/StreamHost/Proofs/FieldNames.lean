import Mathlib.Data.List.Find
import StreamHost.SimValue

/-! The names under which the entries of a map are read. A name can be spelled as
a bare symbol or as a string; a reader that takes the first entry of a name and one
that takes the last see the same value exactly when no name is repeated. A reader of
bare symbols alone sees what these see when no string spells the name. -/

namespace StreamHost

theorem Expr.spells_iff {name : String} {key : Expr} : key.spells name = true ↔ key.bareName = some name := by
  cases key with
  | symbol found =>
    rw [spells, bareName, Bool.and_eq_true, decide_eq_true_iff]
    split
    · rename_i bare
      rw [Option.some.injEq]
      exact and_iff_right bare
    · rename_i qualified
      exact iff_of_false (fun both => qualified both.1) nofun
  | string text => rw [spells, bareName, decide_eq_true_iff, Option.some.injEq]
  | nil | bool | number | bytes | list | map | other => exact iff_of_false nofun nofun

private theorem Expr.isBare_iff {name : String} {key : Expr} : key.isBare name = true ↔ key = .symbol (.new name) := by
  cases key with
  | symbol found =>
    obtain ⟨ns, bare⟩ := found
    rw [isBare, Bool.and_eq_true, decide_eq_true_iff, Option.isNone_iff_eq_none, Expr.symbol.injEq, Symbol.new,
      Symbol.mk.injEq]
  | nil | bool | number | string | bytes | list | map | other => exact iff_of_false nofun nofun

/-- The names of the entries; an entry whose key is neither spelling has none. -/
def fieldNames (entries : List (Expr × Expr)) : List (Option String) := entries.map fun entry => entry.1.bareName

def lastField (entries : List (Expr × Expr)) (name : String) : Option Expr := firstField entries.reverse name

section Lookup
variable {entries : List (Expr × Expr)} {name : String} {value : Expr}

theorem firstField_mem (found : firstField entries name = some value) :
    ∃ entry ∈ entries, entry.1.bareName = some name ∧ entry.2 = value := by
  obtain ⟨entry, first, same⟩ := Option.map_eq_some_iff.mp found
  have spelled := List.find?_some first
  exact ⟨entry, List.mem_of_find?_eq_some first, Expr.spells_iff.mp spelled, same⟩

theorem mem_fieldNames : some name ∈ fieldNames entries ↔ ∃ value, firstField entries name = some value := by
  constructor
  · intro member
    obtain ⟨entry, listed, named⟩ := List.mem_map.mp member
    have found : (entries.find? fun entry => entry.1.spells name).isSome :=
      List.find?_isSome.mpr ⟨entry, listed, Expr.spells_iff.mpr named⟩
    obtain ⟨first, same⟩ := Option.isSome_iff_exists.mp found
    exact ⟨first.2, by rw [firstField, same]; rfl⟩
  · intro ⟨value, found⟩
    obtain ⟨entry, listed, named, _⟩ := firstField_mem found
    exact List.mem_map.mpr ⟨entry, listed, named⟩

private theorem symbolField_mem (found : symbolField entries name = some value) : (Expr.symbol (.new name), value) ∈ entries := by
  obtain ⟨entry, first, held⟩ := Option.map_eq_some_iff.mp found
  have bare := List.find?_some first
  have key : entry.1 = .symbol (.new name) := Expr.isBare_iff.mp bare
  rw [← key, ← held]
  exact List.mem_of_find?_eq_some first

theorem symbolField_named (found : symbolField entries name = some value) : some name ∈ fieldNames entries :=
  List.mem_map.mpr ⟨_, symbolField_mem found, rfl⟩

/-- No string spells the name, so both readers look at the same entries. -/
def SymbolKeyed (entries : List (Expr × Expr)) (name : String) : Prop :=
  ∀ entry ∈ entries, entry.1 ≠ .string name

theorem symbolField_eq_firstField (keyed : SymbolKeyed entries name) : symbolField entries name = firstField entries name := by
  have same : ∀ entry ∈ entries, entry.1.isBare name = entry.1.spells name := by
    intro entry listed
    have notString := keyed entry listed
    cases key : entry.1 with
    | string text =>
      have different : text ≠ name := fun same => notString (key.trans (congrArg Expr.string same))
      exact (decide_eq_false different).symm
    | nil | bool | number | symbol | bytes | list | map | other => rfl
  rw [symbolField, firstField, List.find?_congr same]

/-- Under distinct names an entry is found under its own. -/
theorem firstField_eq_some_iff (once : (fieldNames entries).Nodup) :
    firstField entries name = some value ↔ ∃ entry ∈ entries, entry.1.bareName = some name ∧ entry.2 = value := by
  refine ⟨firstField_mem, ?_⟩
  intro ⟨entry, listed, named, same⟩
  obtain ⟨other, found⟩ := mem_fieldNames.mp (List.mem_map.mpr ⟨entry, listed, named⟩)
  obtain ⟨first, firstListed, firstNamed, firstSame⟩ := firstField_mem found
  obtain rfl : first = entry := List.inj_on_of_nodup_map once firstListed listed (firstNamed.trans named.symm)
  rw [found, ← firstSame, same]

theorem lastField_eq_firstField (once : (fieldNames entries).Nodup) : lastField entries name = firstField entries name := by
  have reversed : (fieldNames entries.reverse).Nodup := by
    rw [fieldNames, List.map_reverse]
    exact List.nodup_reverse.mpr once
  apply Option.ext
  intro value
  rw [lastField, firstField_eq_some_iff reversed, firstField_eq_some_iff once]
  simp only [List.mem_reverse]

end Lookup

/-- The entries are named by known fields only, and each of these is there. -/
structure Covers (known : List String) (entries : List (Expr × Expr)) : Prop where
  named : ∀ name ∈ fieldNames entries, name ∈ known.map some
  present : ∀ field ∈ known, some field ∈ fieldNames entries

section Covers
variable {known : List String} {entries : List (Expr × Expr)} (covers : Covers known entries)
include covers

theorem Covers.nodup_iff (distinct : known.Nodup) : (fieldNames entries).Nodup ↔ entries.length ≤ known.length := by
  have distinctNames : (known.map some).Nodup := distinct.map (Option.some_injective _)
  have listed : known.map some ⊆ fieldNames entries := by
    intro name member
    obtain ⟨field, fieldKnown, rfl⟩ := List.mem_map.mp member
    exact covers.present field fieldKnown
  constructor
  · intro once
    have bound := (List.subperm_of_subset once covers.named).length_le
    rwa [fieldNames, List.length_map, List.length_map] at bound
  · intro few
    have lengths : (fieldNames entries).length ≤ (known.map some).length := by
      rwa [fieldNames, List.length_map, List.length_map]
    have perm := (List.subperm_of_subset distinctNames listed).perm_of_length_le lengths
    exact perm.nodup_iff.mp distinctNames

theorem Covers.nodup_iff_count : (fieldNames entries).Nodup ↔ ∀ field ∈ known, (fieldNames entries).count (some field) ≤ 1 := by
  rw [List.nodup_iff_count_le_one]
  constructor
  · exact fun once field _ => once _
  · intro once name
    by_cases member : name ∈ fieldNames entries
    · obtain ⟨field, fieldKnown, rfl⟩ := List.mem_map.mp (covers.named name member)
      exact once field fieldKnown
    · rw [List.count_eq_zero_of_not_mem member]
      exact Nat.zero_le 1

end Covers

end StreamHost
