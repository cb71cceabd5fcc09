import CoherentTasks.Proofs.Graph.Basic

/-!
# Well-formed graphs

Requirements point to earlier nodes, stated requirements name existing regions,
and every region knows its number and keeps its copies in order. All of this
lasts as long as nodes keep what they are for and regions keep their copies, in
particular when a snapshot of the regions is restored.
-/

namespace CoherentTasks.Graph.TaskGraph

open CoherentTasks.Coherence (Region Snapshot)

section Regions

variable (relation : Region → Region → Prop)

theorem forall₂_trans
    (transitive : ∀ first second third,
      relation first second → relation second third → relation first third)
    {first second third : List Region}
    (start : List.Forall₂ relation first second)
    (rest : List.Forall₂ relation second third) :
    List.Forall₂ relation first third := by
  induction start generalizing third with
  | nil => exact rest
  | cons related _ induction =>
      obtain ⟨head, tail, further, later, rfl⟩ :=
        List.forall₂_cons_left_iff.mp rest
      exact .cons (transitive _ _ _ related further) (induction later)

theorem forall₂_updateRegion (reflexive : ∀ region, relation region region)
    (graph : TaskGraph) (id : RegionId) {change : Region → Region}
    (related : ∀ region,
      graph.region? id = some region → relation region (change region)) :
    List.Forall₂ relation graph.regions
      (graph.updateRegion id change).regions := by
  simp only [region?] at related
  change List.Forall₂ relation graph.regions (graph.regions.modify id change)
  generalize graph.regions = regions at related ⊢
  induction regions generalizing id with
  | nil => cases id <;> exact .nil
  | cons region regions induction =>
      cases id with
      | zero =>
          exact .cons (related region rfl)
            (List.forall₂_same.mpr fun other _ => reflexive other)
      | succ id => exact .cons (reflexive region) (induction id related)

/-- If the regions are related one by one, so are those of the same number. -/
theorem exists_later_of_forall₂ {first second : TaskGraph}
    (related : List.Forall₂ relation first.regions second.regions)
    {id : RegionId} {region : Region} (found : first.region? id = some region) :
    ∃ later, second.region? id = some later ∧ relation region later := by
  simp only [TaskGraph.region?] at *
  obtain ⟨bound, isRegion⟩ := List.getElem?_eq_some_iff.mp found
  have longer : id < second.regions.length := related.length_eq ▸ bound
  refine ⟨second.regions[id], List.getElem?_eq_getElem longer, ?_⟩
  rw [← isRegion]
  exact related.get bound longer

end Regions

/-- The same regions at a later moment. -/
def RegionsGrow (before after : TaskGraph) : Prop :=
  List.Forall₂ Region.Grows before.regions after.regions

section RegionsGrow

variable {first second third : TaskGraph}

theorem regionsGrow_of_eq (same : second.regions = first.regions) :
    first.RegionsGrow second := by
  simp only [RegionsGrow]
  rw [same]
  exact List.forall₂_same.mpr fun region _ => .refl region

theorem RegionsGrow.trans (start : first.RegionsGrow second)
    (rest : second.RegionsGrow third) : first.RegionsGrow third :=
  forall₂_trans Region.Grows (fun _ _ _ => .trans) start rest

theorem regionsGrow_updateRegion (graph : TaskGraph) (id : RegionId)
    {change : Region → Region}
    (grows : ∀ region : Region, region.Grows (change region)) :
    graph.RegionsGrow (graph.updateRegion id change) :=
  forall₂_updateRegion Region.Grows .refl graph id fun region _ => grows region

theorem RegionsGrow.region? (grow : first.RegionsGrow second) {id : RegionId}
    {region : Region} (found : second.region? id = some region) :
    ∃ earlier, first.region? id = some earlier ∧ earlier.Grows region :=
  exists_later_of_forall₂ (fun later earlier => earlier.Grows later)
    (List.Forall₂.flip grow) found

theorem RegionsGrow.later (grow : first.RegionsGrow second) {id : RegionId}
    {region : Region} (found : first.region? id = some region) :
    ∃ later, second.region? id = some later ∧ region.Grows later :=
  exists_later_of_forall₂ Region.Grows grow found

end RegionsGrow

section Restore

private theorem restoreRegions_snapshot {before after : List Region}
    (grow : List.Forall₂ Region.Grows before after) :
    restoreRegions after (before.map Region.snapshot) = List.zipWith
      (fun region saved => region.restore saved.snapshot) after before := by
  induction grow with
  | nil => rfl
  | cons _ _ induction => exact congrArg (_ :: ·) induction

/-- Restoring the snapshot of an earlier moment restores every region by
itself. -/
theorem region?_restore {before after : TaskGraph}
    (grow : before.RegionsGrow after) {id : RegionId} {saved region : Region}
    (earlier : before.region? id = some saved)
    (found : after.region? id = some region) :
    (after.restore before.snapshot).region? id =
      some (region.restore saved.snapshot) := by
  simp only [TaskGraph.region?, restore, snapshot] at *
  rw [restoreRegions_snapshot grow, List.getElem?_zipWith, found, earlier]

/-- Whatever is put back into regions, they stay the same regions. -/
private theorem grows_restoreRegions (regions : List Region)
    (saved : List Snapshot) :
    List.Forall₂ Region.Grows regions (restoreRegions regions saved) := by
  induction regions generalizing saved with
  | nil => cases saved <;> exact .nil
  | cons region regions induction =>
      cases saved with
      | nil => exact List.forall₂_same.mpr fun other _ => .refl other
      | cons first rest =>
          exact .cons (Region.grows_restore region first) (induction rest)

theorem regionsGrow_restore (graph : TaskGraph) (saved : List Snapshot) :
    graph.RegionsGrow (graph.restore saved) :=
  grows_restoreRegions graph.regions saved

end Restore

/-- Nothing in the graph points to something that is not there or that comes
later. -/
structure WellFormed (graph : TaskGraph) : Prop where
  earlier : ∀ {dependent required},
    graph.Requires dependent required → required < dependent
  tracked : ∀ {id node requirement}, graph.node? id = some node →
    node.operation = .requirement requirement →
      ∃ region, graph.region? requirement.region = some region
  numbered : ∀ {id region}, graph.region? id = some region → region.id = id

theorem wellFormed_empty : TaskGraph.empty.WellFormed where
  earlier required := by
    obtain ⟨node, found, _⟩ := requires_iff.mp required
    cases found
  tracked found := by cases found
  numbered found := by cases found

theorem WellFormed.later {before after : TaskGraph}
    (wellFormed : before.WellFormed) (same : before.SameNodes after)
    (grow : before.RegionsGrow after) : after.WellFormed where
  earlier required := wellFormed.earlier (same.requires ▸ required)
  tracked found states := by
    obtain ⟨counterpart, isNode, operation, _⟩ := same.symm.node found
    obtain ⟨region, isRegion⟩ :=
      wellFormed.tracked isNode (operation.trans states)
    obtain ⟨later, isLater, _⟩ := grow.later isRegion
    exact ⟨later, isLater⟩
  numbered found := by
    obtain ⟨saved, isSaved, grows⟩ := grow.region? found
    exact grows.id.trans (wellFormed.numbered isSaved)

theorem WellFormed.dependsOn_lt {graph : TaskGraph}
    (wellFormed : graph.WellFormed) {dependent required : NodeId}
    (reached : graph.DependsOn dependent required) : required < dependent := by
  induction reached with
  | single edge => exact wellFormed.earlier edge
  | tail _ edge induction => exact (wellFormed.earlier edge).trans induction

end CoherentTasks.Graph.TaskGraph
