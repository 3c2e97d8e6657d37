import Querent.NameMap

/-! Maps from names keep their entries in strict order, and a map in order is made of its entries.
-/

namespace Querent.NameMap

variable {α : Type}

/-- Whether every name of a map comes before those behind it. -/
def Sorted (map : NameMap α) : Prop :=
  map.entries.Pairwise fun entry next => entry.1 < next.1

/-- The map without names is in order. -/
theorem sorted_empty : (empty : NameMap α).Sorted :=
  List.Pairwise.nil

/-- Placing a name brings in no other entry. -/
theorem mem_place {name : String} {value : α} {entry : String × α} {entries : List (String × α)}
    (mem : entry ∈ place name value entries) : entry = (name, value) ∨ entry ∈ entries := by
  -- The name goes in front of an entry, in its stead, or among those behind it.
  induction entries with
  | nil => simpa [place] using mem
  | cons first rest ih =>
    obtain ⟨other, old⟩ := first
    rw [place] at mem
    split at mem
    · simpa using mem
    · split at mem
      · exact (List.mem_cons.mp mem).imp id (List.mem_cons_of_mem _)
      · rcases List.mem_cons.mp mem with same | behind
        · exact .inr (same ▸ List.mem_cons_self ..)
        · exact (ih behind).imp id (List.mem_cons_of_mem _)

/-- A map in order is in order once a name is set. -/
theorem Sorted.insert {map : NameMap α} (sorted : map.Sorted) (name : String) (value : α) :
    (map.insert name value).Sorted := by
  obtain ⟨entries⟩ := map
  show (place name value entries).Pairwise fun entry next => entry.1 < next.1
  change entries.Pairwise fun entry next => entry.1 < next.1 at sorted
  induction entries with
  | nil => simp [place]
  | cons first rest ih =>
    obtain ⟨other, old⟩ := first
    obtain ⟨least, others⟩ := List.pairwise_cons.mp sorted
    rw [place]
    split
    · next before =>
      -- What comes behind the first entry comes behind the new one, too.
      refine List.pairwise_cons.mpr ⟨?_, sorted⟩
      intro entry mem
      rcases List.mem_cons.mp mem with rfl | behind
      · exact before
      · exact String.lt_trans before (least entry behind)
    · next notBefore =>
      split
      · next same =>
        subst same
        exact List.pairwise_cons.mpr ⟨least, others⟩
      · next differs =>
        -- The new entry comes behind the first one.
        have after : other < name :=
          Std.lt_of_le_of_ne (String.not_lt.mp notBefore) (Ne.symm differs)
        refine List.pairwise_cons.mpr ⟨?_, ih others⟩
        intro entry mem
        rcases mem_place mem with rfl | behind
        · exact after
        · exact least entry behind

/-- A map that is made of pairs is in order, whatever order they come in. -/
theorem sorted_ofPairs (pairs : List (String × α)) : (ofPairs pairs).Sorted := by
  have general : ∀ map : NameMap α, map.Sorted →
      (pairs.foldl (fun map pair => map.insert pair.1 pair.2) map).Sorted := by
    -- Each pair is set in a map that is in order.
    induction pairs with
    | nil => exact fun _ sorted => sorted
    | cons pair pairs ih => exact fun _ sorted => ih _ (sorted.insert pair.1 pair.2)
  exact general empty sorted_empty

/-- A name behind all others is placed at the end. -/
theorem place_of_forall_lt {name : String} {value : α} {entries : List (String × α)}
    (last : ∀ entry ∈ entries, entry.1 < name) :
    place name value entries = entries ++ [(name, value)] := by
  induction entries with
  | nil => rfl
  | cons first rest ih =>
    obtain ⟨other, old⟩ := first
    obtain ⟨before, others⟩ := List.forall_mem_cons.mp last
    -- The first name is neither greater nor the same.
    have notBefore : ¬name < other := String.lt_asymm before
    have differs : name ≠ other := fun same => String.lt_irrefl _ (same ▸ before)
    rw [place, if_neg notBefore, if_neg differs, ih others]
    rfl

/-- A map in order is made of its entries. -/
theorem Sorted.ofPairs_entries {map : NameMap α} (sorted : map.Sorted) :
    ofPairs map.entries = map := by
  have general : ∀ front back : List (String × α),
      (front ++ back).Pairwise (fun entry next => entry.1 < next.1) →
        back.foldl (fun map pair => map.insert pair.1 pair.2) (⟨front⟩ : NameMap α) =
          ⟨front ++ back⟩ := by
    intro front back
    -- Each entry is set behind those before it.
    induction back generalizing front with
    | nil => simp
    | cons entry back ih =>
      intro ordered
      have last : ∀ earlier ∈ front, earlier.1 < entry.1 := fun earlier mem =>
        (List.pairwise_append.mp ordered).2.2 earlier mem entry (List.mem_cons_self ..)
      rw [List.append_cons] at ordered ⊢
      rw [List.foldl_cons, NameMap.insert, place_of_forall_lt last]
      exact ih _ ordered
  exact general [] map.entries sorted

end Querent.NameMap
