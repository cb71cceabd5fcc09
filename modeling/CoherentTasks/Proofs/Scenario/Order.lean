import CoherentTasks.Proofs.Computation
import CoherentTasks.Proofs.Table
import CoherentTasks.Scenario.Order
import Mathlib.Data.List.Nodup

/-!
# What an order of submission lists

A topological order lists every name once, behind all that it has to come after.
The depth-first search sorts topologically: it has steps enough to finish every
name, finishes it only once, and its order is checked afterwards. With any such
sorting an order of submission lists every node once, behind those that it is to
come after.
-/

namespace CoherentTasks.Scenario

open CoherentTasks.Computation

namespace Precedence

variable {precedence : Precedence}

/-- The search after a name that it had met is taken off the stack. -/
def Search.pop (search : Search) (name : String) : Search :=
  if name ∈ search.finished then search
  else { search with finished := search.finished ++ [name] }

theorem Search.discovered_pop (search : Search) (name : String) :
    (search.pop name).discovered = search.discovered := by
  simp only [pop]
  split <;> rfl

theorem Search.mem_finished_pop {search : Search} {name other : String} :
    other ∈ (search.pop name).finished ↔
      other ∈ search.finished ∨ other = name := by
  simp only [pop]
  split
  · rename_i finished
    rw [iff_self_or]
    exact fun same => same ▸ finished
  · rw [List.mem_append, List.mem_singleton]

theorem Search.nodup_finished_pop {search : Search}
    (distinct : search.finished.Nodup) (name : String) :
    (search.pop name).finished.Nodup := by
  simp only [pop]
  split
  · exact distinct
  · rename_i unfinished
    exact distinct.append (List.nodup_singleton name)
      (List.disjoint_singleton.mpr unfinished)

private theorem explore_met {steps : Nat} {stack : List String}
    {search : Search} {name : String} (met : name ∈ search.discovered) :
    precedence.explore (steps + 1) (name :: stack) search =
      precedence.explore steps stack (search.pop name) := by
  simp only [explore]
  rw [if_pos met]
  rfl

/-- A name that is met for the first time goes back on the stack, below what is
new behind it. -/
private theorem explore_fresh_ok {steps : Nat} {stack : List String}
    {search next : Search} {name : String} (fresh : name ∉ search.discovered)
    (explored :
      precedence.explore (steps + 1) (name :: stack) search = .ok next) :
    name ∉ precedence.successors name ∧
    ∃ behind, (∀ later ∈ behind, later ∈ precedence.successors name) ∧
      behind.length ≤ (precedence.successors name).length ∧
      precedence.explore steps (behind ++ name :: stack) { search with
          discovered := search.discovered ++ [name] } = .ok next := by
  simp only [explore] at explored
  rw [if_neg fresh] at explored
  split at explored
  · cases explored
  · rename_i straight
    refine ⟨straight, _, fun later member => ?_, ?_, explored⟩
    · exact List.mem_of_mem_filter (List.mem_reverse.mp member)
    · rw [List.length_reverse]
      exact List.length_filter_le _ _

private theorem nodup_explore {steps : Nat} {stack : List String}
    {search next : Search} (distinct : search.finished.Nodup)
    (explored : precedence.explore steps stack search = .ok next) :
    next.finished.Nodup := by
  induction steps generalizing stack search with
  | zero =>
      cases explored
      exact distinct
  | succ steps induction =>
      cases stack with
      | nil =>
          cases explored
          exact distinct
      | cons name stack =>
          by_cases met : name ∈ search.discovered
          · rw [explore_met met] at explored
            exact induction (Search.nodup_finished_pop distinct name) explored
          · obtain ⟨_, _, _, _, explored⟩ := explore_fresh_ok met explored
            apply induction _ explored
            exact distinct

private theorem nodup_finishOrder {order : List String}
    (finished : precedence.finishOrder = .ok order) : order.Nodup := by
  simp only [finishOrder] at finished
  obtain ⟨search, folded, finished⟩ := bind_eq_ok_iff.mp finished
  rw [← pure_eq_ok_iff.mp finished]
  refine foldlM_keeps (fun search => search.finished.Nodup) ?_
    List.nodup_nil folded
  intro search name next _ distinct explored
  split at explored
  · exact pure_eq_ok_iff.mp explored ▸ distinct
  · exact nodup_explore distinct explored

private theorem nodup_sort {order : List String}
    (sorted : precedence.sort = .ok order) : order.Nodup := by
  simp only [sort] at sorted
  obtain ⟨finished, isFinished, sorted⟩ := bind_eq_ok_iff.mp sorted
  obtain ⟨_, _, sorted⟩ := bind_eq_ok_iff.mp sorted
  rw [← pure_eq_ok_iff.mp sorted]
  exact List.nodup_reverse.mpr (nodup_finishOrder isFinished)

/-- Both names of every pair are among the names. -/
def Closed (precedence : Precedence) : Prop :=
  ∀ edge ∈ precedence.edges,
    edge.1 ∈ precedence.names ∧ edge.2 ∈ precedence.names

private theorem mem_successors_iff {name later : String} :
    later ∈ precedence.successors name ↔ (name, later) ∈ precedence.edges := by
  simp [successors]

private theorem mem_predecessors_iff {name earlier : String} :
    earlier ∈ precedence.predecessors name ↔
      (earlier, name) ∈ precedence.edges := by
  simp [predecessors]

/-- How many names, and how many pairs, a search that has discovered these names
can still meet. -/
def unseen (precedence : Precedence) (discovered : List String) : Nat :=
  precedence.names.countP (· ∉ discovered) +
    precedence.edges.countP (·.1 ∉ discovered)

private theorem countP_discover {Item : Type} (nameOf : Item → String)
    (items : List Item) {discovered : List String} {name : String}
    (fresh : name ∉ discovered) :
    items.countP (nameOf · ∉ discovered ++ [name]) +
        items.countP (nameOf · == name) =
      items.countP (nameOf · ∉ discovered) := by
  induction items with
  | nil => rfl
  | cons item items induction =>
      simp only [List.countP_cons]
      by_cases here : nameOf item = name
      · subst here
        simp [fresh] at induction ⊢
        omega
      · simp [here] at induction ⊢
        omega

/-- To discover a name takes the name and its pairs away from what is unseen. -/
private theorem unseen_discover {discovered : List String} {name : String}
    (member : name ∈ precedence.names) (fresh : name ∉ discovered) :
    precedence.unseen (discovered ++ [name]) +
        (precedence.successors name).length + 1 ≤
      precedence.unseen discovered := by
  have names := countP_discover id precedence.names fresh
  have edges := countP_discover Prod.fst precedence.edges fresh
  have once : 0 < precedence.names.countP (id · == name) :=
    List.countP_pos_iff.mpr ⟨name, member, by simp⟩
  have pairs :
      (precedence.successors name).length =
        precedence.edges.countP (·.1 == name) := by
    rw [successors, List.length_map, List.countP_eq_length_filter]
  simp only [unseen]
  simp only [id] at names once
  omega

private theorem unseen_le_bound (precedence : Precedence)
    (discovered : List String) :
    1 + precedence.unseen discovered ≤ precedence.bound := by
  have names :
      precedence.names.countP (· ∉ discovered) ≤ precedence.names.length :=
    List.countP_le_length
  have edges :
      precedence.edges.countP (·.1 ∉ discovered) ≤ precedence.edges.length :=
    List.countP_le_length
  simp only [unseen, bound]
  omega

/-- What a search has met is among the names, comes not behind itself, and is
finished or still to be. -/
structure Search.Sound (precedence : Precedence) (stack : List String)
    (search : Search) : Prop where
  known : ∀ name ∈ stack, name ∈ precedence.names
  finished : ∀ name ∈ search.finished, name ∈ search.discovered
  discovered : ∀ name ∈ search.discovered, name ∈ precedence.names ∧
    (name, name) ∉ precedence.edges ∧ (name ∈ search.finished ∨ name ∈ stack)

/-- A search that meets a name for the first time. -/
theorem Search.Sound.discover {stack : List String} {search : Search}
    {name : String} (sound : search.Sound precedence (name :: stack))
    (closed : precedence.Closed) (straight : name ∉ precedence.successors name)
    (behind : List String)
    (among : ∀ later ∈ behind, later ∈ precedence.successors name) :
    Search.Sound precedence (behind ++ name :: stack)
      { search with discovered := search.discovered ++ [name] } where
  known later member := by
    rcases List.mem_append.mp member with isBehind | old
    · exact (closed _ (mem_successors_iff.mp (among later isBehind))).2
    · exact sound.known later old
  finished other member := List.mem_append_left _ (sound.finished other member)
  discovered other member := by
    rcases List.mem_append.mp member with old | new
    · obtain ⟨isName, notSelf, place⟩ := sound.discovered other old
      exact ⟨isName, notSelf, place.imp_right (List.mem_append_right _)⟩
    · rw [List.mem_singleton.mp new]
      refine ⟨sound.known name List.mem_cons_self, ?_,
        .inr (List.mem_append_right _ List.mem_cons_self)⟩
      exact fun edge => straight (mem_successors_iff.mpr edge)

/-- A search that takes a name off the stack has finished it. -/
theorem Search.Sound.pop {stack : List String} {search : Search} {name : String}
    (sound : search.Sound precedence (name :: stack))
    (met : name ∈ search.discovered) :
    (search.pop name).Sound precedence stack where
  known other member := sound.known other (List.mem_cons_of_mem _ member)
  finished other member := by
    rw [Search.discovered_pop]
    rcases Search.mem_finished_pop.mp member with old | rfl
    · exact sound.finished other old
    · exact met
  discovered other member := by
    rw [Search.discovered_pop] at member
    obtain ⟨isName, notSelf, place⟩ := sound.discovered other member
    refine ⟨isName, notSelf, ?_⟩
    rcases place with old | onStack
    · exact .inl (Search.mem_finished_pop.mpr (.inl old))
    · rcases List.mem_cons.mp onStack with rfl | below
      · exact .inl (Search.mem_finished_pop.mpr (.inr rfl))
      · exact .inr below

/-- A search with nothing left on its stack can start again from another
name. -/
theorem Search.Sound.start {search : Search} {name : String}
    (sound : search.Sound precedence []) (member : name ∈ precedence.names) :
    search.Sound precedence [name] where
  known other isName := List.mem_singleton.mp isName ▸ member
  finished := sound.finished
  discovered other met := by
    obtain ⟨isName, notSelf, place⟩ := sound.discovered other met
    exact ⟨isName, notSelf, .inl (place.resolve_right List.not_mem_nil)⟩

/-- The search has come to its end, and has met all that was on the stack or had
been met. -/
structure Search.Completes (precedence : Precedence) (stack : List String)
    (search next : Search) : Prop where
  sound : next.Sound precedence []
  covers :
    ∀ name, name ∈ stack ∨ name ∈ search.discovered → name ∈ next.discovered

/-- With steps enough, a search finishes all that it was given and all that it
has met. -/
private theorem completes_explore (closed : precedence.Closed) {steps : Nat}
    {stack : List String} {search next : Search}
    (sound : search.Sound precedence stack)
    (enough : stack.length + precedence.unseen search.discovered ≤ steps)
    (explored : precedence.explore steps stack search = .ok next) :
    search.Completes precedence stack next := by
  induction steps generalizing stack search with
  | zero =>
      obtain rfl : stack = [] := List.length_eq_zero_iff.mp (by omega)
      cases explored
      exact ⟨sound, fun name met => met.resolve_left List.not_mem_nil⟩
  | succ steps induction =>
      cases stack with
      | nil =>
          cases explored
          exact ⟨sound, fun name met => met.resolve_left List.not_mem_nil⟩
      | cons name stack =>
          rw [List.length_cons] at enough
          by_cases met : name ∈ search.discovered
          · rw [explore_met met] at explored
            obtain ⟨finished, covers⟩ := induction (sound.pop met)
              (by rw [Search.discovered_pop]; omega) explored
            refine ⟨finished, fun other reached => covers other ?_⟩
            rw [Search.discovered_pop]
            rcases reached with onStack | old
            · rcases List.mem_cons.mp onStack with rfl | below
              · exact .inr met
              · exact .inl below
            · exact .inr old
          · obtain ⟨straight, behind, among, few, explored⟩ :=
              explore_fresh_ok met explored
            have less :=
              unseen_discover (sound.known name List.mem_cons_self) met
            obtain ⟨finished, covers⟩ :=
              induction (sound.discover closed straight behind among)
                (by simp only [List.length_append, List.length_cons]; omega)
                explored
            refine ⟨finished, fun other reached => covers other ?_⟩
            exact reached.imp (List.mem_append_right _) (List.mem_append_left _)

/-- Every name is finished, and none comes behind itself. -/
private theorem finishOrder_covers (closed : precedence.Closed)
    {order : List String} (finished : precedence.finishOrder = .ok order) :
    (∀ name, name ∈ order ↔ name ∈ precedence.names) ∧
    ∀ name ∈ precedence.names, (name, name) ∉ precedence.edges := by
  simp only [finishOrder] at finished
  obtain ⟨search, folded, finished⟩ := bind_eq_ok_iff.mp finished
  obtain rfl := pure_eq_ok_iff.mp finished
  obtain ⟨sound, covers⟩ := foldlM_along (fun done (search : Search) =>
    search.Sound precedence [] ∧ ∀ name ∈ done, name ∈ search.discovered) (by
      intro done name rest search next shape reached stepped
      obtain ⟨sound, covers⟩ := reached
      split at stepped
      · rename_i met
        obtain rfl := pure_eq_ok_iff.mp stepped
        refine ⟨sound, fun other member => ?_⟩
        rcases List.mem_append.mp member with old | new
        · exact covers other old
        · exact List.mem_singleton.mp new ▸ met
      · have member : name ∈ precedence.names :=
          shape ▸ List.mem_append_right _ List.mem_cons_self
        have completes := completes_explore closed (sound.start member)
          (unseen_le_bound precedence search.discovered) stepped
        refine ⟨completes.sound, fun other isDone => completes.covers other ?_⟩
        rcases List.mem_append.mp isDone with old | new
        · exact .inr (covers other old)
        · exact .inl new)
    ⟨⟨fun _ absent => absurd absent List.not_mem_nil,
      fun _ absent => absurd absent List.not_mem_nil,
      fun _ absent => absurd absent List.not_mem_nil⟩,
      fun _ absent => absurd absent List.not_mem_nil⟩ folded
  refine ⟨fun name => ⟨fun member => ?_, fun member => ?_⟩,
    fun name member => ?_⟩
  · exact (sound.discovered name (sound.finished name member)).1
  · exact (sound.discovered name (covers name member)).2.2.resolve_right
      List.not_mem_nil
  · exact (sound.discovered name (covers name member)).2.1

/-- A name that passes has been preceded by all its predecessors. -/
private theorem checkFront_ok {steps : Nat} {seen next : List String}
    {name : String} (fresh : name ∉ seen)
    (straight : name ∉ precedence.predecessors name)
    (passed : precedence.checkFront (steps + 2) [name] seen false = .ok next) :
    next = seen ++ [name] ∧
    ∀ earlier ∈ precedence.predecessors name, earlier ∈ seen := by
  simp only [checkFront] at passed
  rw [if_neg fresh, if_neg Bool.false_ne_true, List.append_nil] at passed
  cases front :
    ((precedence.predecessors name).filter (· ∉ seen ++ [name])).reverse with
  | nil =>
      rw [front] at passed
      cases passed
      refine ⟨rfl, fun earlier member => ?_⟩
      have none :=
        List.filter_eq_nil_iff.mp (List.reverse_eq_nil_iff.mp front)
          earlier member
      have met : earlier ∈ seen ++ [name] :=
        by_contra fun unmet => none (decide_eq_true unmet)
      rcases List.mem_append.mp met with isSeen | isName
      · exact isSeen
      · rw [List.mem_singleton.mp isName] at member
        exact absurd member straight
  | cons first others =>
      have member :
          first ∈ (precedence.predecessors name).filter (· ∉ seen ++ [name]) :=
        List.mem_reverse.mp (front ▸ List.mem_cons_self)
      have unmet : first ∉ seen ++ [name] := by
        simpa using (List.mem_filter.mp member).2
      rw [front] at passed
      simp only [checkFront] at passed
      rw [if_neg unmet, if_pos trivial] at passed
      cases passed

/-- In an order that passes, every name comes behind its predecessors. -/
private theorem checkOrder_ok {order : List String} (distinct : order.Nodup)
    (straight : ∀ name ∈ order,
      name ∈ precedence.names ∧ (name, name) ∉ precedence.edges)
    (checked : precedence.checkOrder order = .ok ()) {front rest : List String}
    {name : String} (shape : order = front ++ name :: rest) :
    ∀ earlier ∈ precedence.predecessors name, earlier ∈ front := by
  simp only [checkOrder] at checked
  obtain ⟨seen, folded, _⟩ := bind_eq_ok_iff.mp checked
  have passes :=
    foldlM_along (fun done seen =>
      seen = done ∧ ∀ front name rest, done = front ++ name :: rest →
        ∀ earlier ∈ precedence.predecessors name, earlier ∈ front) (by
      intro done name rest seen next shape reached stepped
      obtain ⟨rfl, passes⟩ := reached
      have member : name ∈ order :=
        shape ▸ List.mem_append_right _ List.mem_cons_self
      obtain ⟨isName, notSelf⟩ := straight name member
      have fresh : name ∉ seen := by
        intro isSeen
        rw [shape] at distinct
        exact List.disjoint_of_nodup_append distinct isSeen List.mem_cons_self
      have steps : ∃ steps, precedence.bound = steps + 2 := by
        have positive := List.length_pos_of_mem isName
        exact ⟨precedence.bound - 2, by simp only [bound]; omega⟩
      obtain ⟨steps, equal⟩ := steps
      rw [equal] at stepped
      obtain ⟨rfl, preceded⟩ :=
        checkFront_ok fresh
          (fun edge => notSelf (mem_predecessors_iff.mp edge)) stepped
      refine ⟨rfl, fun front other rest split => ?_⟩
      rcases List.eq_nil_or_concat rest with rfl | ⟨middle, last, rfl⟩
      · obtain ⟨rfl, equal⟩ := List.append_inj' split rfl
        cases equal
        exact preceded
      · have regrouped :
            seen ++ [name] = (front ++ other :: middle) ++ [last] := by
          rw [split, List.concat_eq_append, List.append_assoc]
          rfl
        obtain ⟨rfl, _⟩ := List.append_inj' regrouped rfl
        exact passes front other middle rfl)
    ⟨rfl, fun front name rest absurdity => by simp at absurdity⟩ folded
  exact passes.2 front name rest shape

/-- Every name stands in the order once, behind all that it has to come
after. -/
structure Orders (precedence : Precedence) (order : List String) : Prop where
  distinct : order.Nodup
  covers : ∀ name, name ∈ order ↔ name ∈ precedence.names
  preceded : ∀ front name rest, order = front ++ name :: rest →
    ∀ earlier, (earlier, name) ∈ precedence.edges → earlier ∈ front

theorem orders_sort (closed : precedence.Closed) {order : List String}
    (sorted : precedence.sort = .ok order) : precedence.Orders order := by
  have distinct := nodup_sort sorted
  simp only [sort] at sorted
  obtain ⟨finished, isFinished, sorted⟩ := bind_eq_ok_iff.mp sorted
  obtain ⟨_, checked, sorted⟩ := bind_eq_ok_iff.mp sorted
  obtain rfl := pure_eq_ok_iff.mp sorted
  obtain ⟨covers, straight⟩ := finishOrder_covers closed isFinished
  have members (name : String) :
      name ∈ finished.reverse ↔ name ∈ precedence.names :=
    List.mem_reverse.trans (covers name)
  refine ⟨distinct, members, fun front name rest shape earlier edge => ?_⟩
  refine checkOrder_ok distinct (fun other member => ?_) checked shape earlier
    (mem_predecessors_iff.mpr edge)
  have isName := (members other).mp member
  exact ⟨isName, straight other isName⟩

private theorem nodup_names_addName (distinct : precedence.names.Nodup)
    (name : String) : (precedence.addName name).names.Nodup := by
  simp only [addName]
  split
  · exact distinct
  · rename_i fresh
    exact distinct.append (List.nodup_singleton name)
      (List.disjoint_singleton.mpr fresh)

theorem nodup_names_addEdge (distinct : precedence.names.Nodup)
    (earlier later : String) :
    (precedence.addEdge earlier later).names.Nodup := by
  have added := nodup_names_addName (nodup_names_addName distinct earlier) later
  simp only [addEdge]
  split <;> exact added

private theorem mem_names_addName {name other : String} :
    other ∈ (precedence.addName name).names ↔
      other ∈ precedence.names ∨ other = name := by
  simp only [addName]
  split
  · rename_i member
    rw [iff_self_or]
    exact fun same => same ▸ member
  · rw [List.mem_append, List.mem_singleton]

private theorem edges_addName (name : String) :
    (precedence.addName name).edges = precedence.edges := by
  simp only [addName]
  split <;> rfl

private theorem mem_names_addEdge {earlier later name : String} :
    name ∈ (precedence.addEdge earlier later).names ↔
      name ∈ precedence.names ∨ name = earlier ∨ name = later := by
  have names : name ∈ ((precedence.addName earlier).addName later).names ↔
      name ∈ precedence.names ∨ name = earlier ∨ name = later := by
    rw [mem_names_addName, mem_names_addName, or_assoc]
  simp only [addEdge]
  split <;> exact names

private theorem mem_edges_addEdge {earlier later : String}
    {edge : String × String} :
    edge ∈ (precedence.addEdge earlier later).edges ↔
      edge ∈ precedence.edges ∨ edge = (earlier, later) := by
  have same :
      ((precedence.addName earlier).addName later).edges =
        precedence.edges := by
    rw [edges_addName, edges_addName]
  simp only [addEdge]
  rw [same]
  split
  · rename_i member
    rw [same, iff_self_or]
    exact fun equal => equal ▸ member
  · rw [List.mem_append, List.mem_singleton]

theorem mem_foldl_addEdge {pairs : List (String × String)} :
    (∀ edge, edge ∈ (pairs.foldl (fun grown pair => grown.addEdge pair.1 pair.2)
      precedence).edges ↔ edge ∈ precedence.edges ∨ edge ∈ pairs) ∧
    ∀ name, name ∈ (pairs.foldl (fun grown pair => grown.addEdge pair.1 pair.2)
      precedence).names ↔ name ∈ precedence.names ∨
        ∃ pair ∈ pairs, name = pair.1 ∨ name = pair.2 := by
  induction pairs generalizing precedence with
  | nil => simp
  | cons pair pairs induction =>
      obtain ⟨edges, names⟩ := @induction (precedence.addEdge pair.1 pair.2)
      rw [List.foldl_cons]
      constructor
      · intro edge
        rw [edges, mem_edges_addEdge, List.mem_cons, or_assoc]
      · intro name
        rw [names, mem_names_addEdge, or_assoc]
        simp

/-- The names are distinct, and the pairs are pairs of them. -/
structure Proper (precedence : Precedence) : Prop where
  distinct : precedence.names.Nodup
  closed : precedence.Closed

end Precedence

/-- The orders that a sorting finds are topological. -/
def Sorting.Topological (sorting : Sorting) : Prop :=
  ∀ precedence order, Precedence.Proper precedence →
    sorting precedence = .ok order → precedence.Orders order

theorem topological_sort : Sorting.Topological Precedence.sort :=
  fun _ _ proper sorted => Precedence.orders_sort proper.closed sorted

/-- The pairs of a name and one that it has to come after, node by node. -/
def pairs (scenario : Scenario) : List (String × String) :=
  scenario.nodes.entries.flatMap fun (name, node) => node.after.map (·, name)

private theorem precedence_eq (scenario : Scenario) : scenario.precedence =
    scenario.pairs.foldl (fun grown pair => grown.addEdge pair.1 pair.2)
      ⟨scenario.nodes.keys, []⟩ := by
  simp only [precedence, pairs]
  rw [List.foldl_flatMap]
  simp only [List.foldl_map]

private theorem mem_precedence (scenario : Scenario) :
    (∀ edge, edge ∈ scenario.precedence.edges ↔ edge ∈ scenario.pairs) ∧
    ∀ name, name ∈ scenario.precedence.names ↔ name ∈ scenario.nodes.keys ∨
      ∃ pair ∈ scenario.pairs, name = pair.1 ∨ name = pair.2 := by
  obtain ⟨edges, names⟩ :=
    @Precedence.mem_foldl_addEdge ⟨scenario.nodes.keys, []⟩ scenario.pairs
  rw [precedence_eq]
  refine ⟨fun edge => (edges edge).trans ?_, names⟩
  exact or_iff_right List.not_mem_nil

private theorem proper_precedence (scenario : Scenario) :
    scenario.precedence.Proper := by
  obtain ⟨edges, names⟩ := mem_precedence scenario
  constructor
  case distinct =>
    rw [precedence_eq]
    exact List.foldlRecOn
      (motive := fun grown : Precedence => grown.names.Nodup) scenario.pairs _
      scenario.nodes.nodup_keys fun _ distinct pair _ =>
        Precedence.nodup_names_addEdge distinct pair.1 pair.2
  case closed =>
    intro edge member
    have isPair := (edges edge).mp member
    exact ⟨(names _).mpr (.inr ⟨edge, isPair, .inl rfl⟩),
      (names _).mpr (.inr ⟨edge, isPair, .inr rfl⟩)⟩

section Submission

variable {sorting : Sorting} (topological : sorting.Topological)
  {scenario : Scenario} {order : List String}
  (ordered : scenario.submissionOrder sorting = .ok order)

include topological ordered

private theorem orders_of_submissionOrder :
    scenario.precedence.Orders order := by
  simp only [submissionOrder] at ordered
  split at ordered
  · rename_i sorted
    cases ordered
    exact topological _ _ (proper_precedence scenario) sorted
  · cases ordered

/-- An order of submission lists every node, and nothing but nodes and what they
are to come after. A node comes behind all that it is to come after. -/
theorem submissionOrder_ok :
    (∀ name, name ∈ order ↔ name ∈ scenario.nodes.keys ∨
      ∃ pair ∈ scenario.pairs, name = pair.1 ∨ name = pair.2) ∧
    ∀ front name rest, order = front ++ name :: rest →
      ∀ earlier, (earlier, name) ∈ scenario.pairs → earlier ∈ front := by
  obtain ⟨edges, names⟩ := mem_precedence scenario
  have orders := orders_of_submissionOrder topological ordered
  refine ⟨fun name => (orders.covers name).trans (names name), ?_⟩
  intro front name rest shape earlier isPair
  exact orders.preceded front name rest shape earlier ((edges _).mpr isPair)

theorem nodup_submissionOrder : order.Nodup :=
  (orders_of_submissionOrder topological ordered).distinct

end Submission

end CoherentTasks.Scenario
