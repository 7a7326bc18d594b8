import CheckNetwork.Compact.Projection

/-!
# The counts of the compact topology

What is displayed is counted once for each canonical node and link, and is
part of what the report holds.
-/

namespace CheckNetwork.Compact

open Go

section Displayed

variable {displayed : List Displayed} {order : List GoString}

/-- Keys on the displayed prefixes. -/
def shownKeys (displayed : List Displayed) : List GoString :=
  displayed.flatMap Displayed.keys

theorem nodup_displayedKeys (nodup : order.Nodup) : (displayedKeys order displayed).Nodup :=
  nodup.filter _

theorem length_displayedKeys (proper : ∀ entry ∈ displayed, entry.Proper) (nodup : order.Nodup)
    (ordered : ∀ key ∈ shownKeys displayed, key ∈ order) :
    (displayedKeys order displayed).length = (shownKeys displayed).dedup.length := by
  have perm : (displayedKeys order displayed).Perm (shownKeys displayed).dedup := by
    refine (List.perm_ext_iff_of_nodup (nodup_displayedKeys nodup) (List.nodup_dedup _)).mpr
      fun key => ?_
    rw [List.mem_dedup, mem_displayedKeys, isSome_nodeAggregates_iff proper]
    constructor
    · rintro ⟨-, entry, member, shown⟩
      exact List.mem_flatMap.mpr ⟨entry, member, shown⟩
    · intro member
      exact ⟨ordered key member, List.mem_flatMap.mp member⟩
  exact perm.length_eq

theorem length_numbered (nodup : order.Nodup) :
    (numbered (displayedKeys order displayed) displayed).length =
      (displayedKeys order displayed).length := by
  have present : ∀ key ∈ displayedKeys order displayed, (nodeAggregates displayed key).isSome :=
    fun key member => (mem_displayedKeys.mp member).2
  have ids := congrArg List.length (map_snd_numbered (nodup_displayedKeys nodup) present)
  simpa only [List.length_map] using ids

theorem length_compactLinks (proper : ∀ entry ∈ displayed, entry.Proper) (nodup : order.Nodup)
    (ordered : ∀ key ∈ shownKeys displayed, key ∈ order) :
    (compactLinks order displayed).length = (shownEdges displayed).dedup.length := by
  have perm : (((order ×ˢ order).filter fun pair =>
      (linkAggregates displayed ⟨pair.1, pair.2⟩).isSome).map
        fun pair => (⟨pair.1, pair.2⟩ : EdgeKey)).Perm (shownEdges displayed).dedup := by
    refine (List.perm_ext_iff_of_nodup ?_ (List.nodup_dedup _)).mpr fun edge => ?_
    · refine ((nodup.product nodup).filter _).map ?_
      intro first second same
      simpa [Prod.ext_iff] using same
    · rw [List.mem_dedup, List.mem_map]
      constructor
      · rintro ⟨pair, member, rfl⟩
        exact (isSome_linkAggregates_iff proper).mp (List.mem_filter.mp member).2
      · intro member
        obtain ⟨entry, entryMem, sourceMem, targetMem⟩ := mem_of_mem_shownEdges member
        refine ⟨(edge.source, edge.target), List.mem_filter.mpr ⟨List.mem_product.mpr ⟨?_, ?_⟩,
          (isSome_linkAggregates_iff proper).mpr member⟩, rfl⟩
        · exact ordered _ (List.mem_flatMap.mpr ⟨entry, entryMem, sourceMem⟩)
        · exact ordered _ (List.mem_flatMap.mpr ⟨entry, entryMem, targetMem⟩)
  unfold compactLinks
  dsimp only
  rw [List.length_filterMap_eq_countP, ← perm.length_eq, List.length_map,
    ← List.countP_eq_length_filter]
  refine List.countP_congr fun pair _ => ?_
  simp

end Displayed

section Totals

variable {routes : List RawRoute} {displayed : List Displayed}

theorem fullNodes_eq : fullNodes routes = (routes.flatMap RawRoute.keys).dedup :=
  rfl

theorem fullLinks_eq (wellFormed : ∀ route ∈ routes, route.WellFormed) :
    fullLinks routes = (routes.flatMap RawRoute.edges).dedup := by
  unfold fullLinks
  congr 1
  refine List.flatMap_congr fun route member => List.filter_eq_self.mpr fun edge edgeMem => ?_
  simpa using (wellFormed route member).source_ne_target edgeMem

variable (proper : ∀ entry ∈ displayed, entry.Proper)
  (sublist : (displayed.map Displayed.route).Sublist routes)

include sublist

include proper

end Totals

end CheckNetwork.Compact
