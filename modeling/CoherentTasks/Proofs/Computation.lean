import Mathlib.Data.List.Forall2
import Mathlib.Logic.Relation

/-!
# Computations that may stop

How the result of a composed computation comes from the results of its parts,
for computations that stop with an error and for those that also change a state.
-/

namespace CoherentTasks.Computation

section Checks

variable {Fault First Second : Type}

theorem bind_eq_ok_iff {first : Except Fault First}
    {next : First → Except Fault Second} {result : Second} :
    (first >>= next) = .ok result ↔
      ∃ value, first = .ok value ∧ next value = .ok result := by
  cases first <;> simp [bind, Except.bind]

theorem bind_eq_error_iff {first : Except Fault First}
    {next : First → Except Fault Second} {cause : Fault} :
    (first >>= next) = .error cause ↔ first = .error cause ∨
      ∃ value, first = .ok value ∧ next value = .error cause := by
  cases first <;> simp [bind, Except.bind]

theorem pure_eq_ok_iff {value result : First} :
    (pure value : Except Fault First) = .ok result ↔ value = result := by
  simp [pure, Except.pure]

/-- A check that passes has the result that is taken out of it. -/
theorem eq_ok_getD {result : Except Fault First} (passes : result.isOk = true)
    (other : First) : result = .ok (result.toOption.getD other) := by
  cases result with
  | ok value => rfl
  | error cause => cases passes

theorem mapM_eq_ok {check : First → Except Fault Second} {values : List First}
    {results : List Second} (passed : values.mapM check = .ok results) :
    List.Forall₂ (fun value result => check value = .ok result) values
      results := by
  induction values generalizing results with
  | nil =>
      rw [List.mapM_nil, pure_eq_ok_iff] at passed
      rw [← passed]
      exact .nil
  | cons value values induction =>
      rw [List.mapM_cons, bind_eq_ok_iff] at passed
      obtain ⟨result, here, passed⟩ := passed
      obtain ⟨rest, later, passed⟩ := bind_eq_ok_iff.mp passed
      rw [← pure_eq_ok_iff.mp passed]
      exact .cons here (induction later)

/-- If there is a result, something was checked. -/
theorem exists_value_of_option_mapM {check : First → Except Fault Second}
    {given : Option First} {result : Second}
    (passed : given.mapM check = .ok (some result)) :
    ∃ value, given = some value ∧ check value = .ok result := by
  cases given with
  | none => cases passed
  | some value =>
      rw [Option.mapM_some] at passed
      cases checked : check value with
      | error cause =>
          rw [checked] at passed
          cases passed
      | ok other =>
          rw [checked] at passed
          cases passed
          exact ⟨value, rfl, checked⟩

theorem exists_error_of_mapM {check : First → Except Fault Second}
    {values : List First} {cause : Fault}
    (failed : values.mapM check = .error cause) :
    ∃ value ∈ values, check value = .error cause := by
  induction values with
  | nil =>
      rw [List.mapM_nil] at failed
      cases failed
  | cons value values induction =>
      rw [List.mapM_cons] at failed
      rcases bind_eq_error_iff.mp failed with here | ⟨_, _, failed⟩
      · exact ⟨value, List.mem_cons_self, here⟩
      · rcases bind_eq_error_iff.mp failed with later | ⟨_, _, never⟩
        · obtain ⟨other, member, there⟩ := induction later
          exact ⟨other, List.mem_cons_of_mem _ member, there⟩
        · cases never

theorem mapError_eq_ok_iff {Other : Type} {convert : Fault → Other}
    {result : Except Fault First} {value : First} :
    result.mapError convert = .ok value ↔ result = .ok value := by
  cases result <;> simp [Except.mapError]

theorem forM_eq_ok {check : First → Except Fault PUnit} {values : List First}
    (passed : values.forM check = .ok ()) :
    ∀ value ∈ values, check value = .ok () := by
  induction values with
  | nil => exact fun value member => absurd member List.not_mem_nil
  | cons first rest induction =>
      obtain ⟨_, checked, others⟩ := bind_eq_ok_iff.mp passed
      intro value member
      rcases List.mem_cons.mp member with rfl | later
      · exact checked
      · exact induction others value later

/-- What every step of a fold keeps, the fold keeps. -/
theorem foldlM_keeps {State : Type} {step : State → First → Except Fault State}
    {values : List First} {start finish : State} (Keeps : State → Prop)
    (each : ∀ state value next,
      value ∈ values → Keeps state → step state value = .ok next → Keeps next)
    (initially : Keeps start) (passed : values.foldlM step start = .ok finish) :
    Keeps finish := by
  induction values generalizing start with
  | nil => exact pure_eq_ok_iff.mp passed ▸ initially
  | cons first rest induction =>
      rw [List.foldlM_cons] at passed
      obtain ⟨next, stepped, passed⟩ := bind_eq_ok_iff.mp passed
      exact induction (fun state value next member =>
          each state value next (List.mem_cons_of_mem _ member))
        (each start first next List.mem_cons_self initially stepped) passed

/-- If every step reaches more from what was reached so far, the fold reaches it
all. -/
theorem foldlM_along {State : Type} {step : State → First → Except Fault State}
    {values : List First} {start finish : State}
    (Reached : List First → State → Prop)
    (each : ∀ done value rest state next,
      values = done ++ value :: rest → Reached done state →
      step state value = .ok next → Reached (done ++ [value]) next)
    (initially : Reached [] start)
    (passed : values.foldlM step start = .ok finish) :
    Reached values finish := by
  have along (done rest : List First) (state : State)
      (shape : values = done ++ rest) (reached : Reached done state)
      (passed : rest.foldlM step state = .ok finish) :
      Reached values finish := by
    induction rest generalizing done state with
    | nil =>
        rw [shape, List.append_nil]
        exact pure_eq_ok_iff.mp passed ▸ reached
    | cons value rest induction =>
        rw [List.foldlM_cons] at passed
        obtain ⟨next, stepped, passed⟩ := bind_eq_ok_iff.mp passed
        apply induction (done ++ [value]) next
        · rw [shape, List.append_assoc]
          rfl
        · exact each done value rest state next shape reached stepped
        · exact passed
  exact along [] values start rfl initially passed

/-- What is related to one list, member by member, comes from a member of the
other. -/
theorem exists_related_of_mem {related : First → Second → Prop}
    {values : List First} {results : List Second}
    (matched : List.Forall₂ related values results) {result : Second}
    (member : result ∈ results) : ∃ value ∈ values, related value result := by
  induction matched with
  | nil => exact absurd member List.not_mem_nil
  | cons here _ induction =>
      rcases List.mem_cons.mp member with rfl | later
      · exact ⟨_, List.mem_cons_self, here⟩
      · obtain ⟨value, isValue, holds⟩ := induction later
        exact ⟨value, List.mem_cons_of_mem _ isValue, holds⟩

theorem exists_result_of_mem {check : First → Except Fault Second}
    {values : List First} {results : List Second}
    (passed : values.mapM check = .ok results) {value : First}
    (member : value ∈ values) :
    ∃ result ∈ results, check value = .ok result := by
  have related := mapM_eq_ok passed
  clear passed
  induction related with
  | nil => exact absurd member List.not_mem_nil
  | cons here _ induction =>
      rcases List.mem_cons.mp member with rfl | later
      · exact ⟨_, List.mem_cons_self, here⟩
      · obtain ⟨result, isResult, gives⟩ := induction later
        exact ⟨result, List.mem_cons_of_mem _ isResult, gives⟩

theorem exists_value_of_mem {check : First → Except Fault Second}
    {values : List First} {results : List Second}
    (passed : values.mapM check = .ok results) {result : Second}
    (member : result ∈ results) : ∃ value ∈ values, check value = .ok result :=
  exists_related_of_mem (mapM_eq_ok passed) member

end Checks

section Actions

variable {Fault State First Second : Type}

theorem bind_ok_iff {first : EStateM Fault State First}
    {next : First → EStateM Fault State Second} {before after : State}
    {result : Second} :
    (first >>= next) before = .ok result after ↔
      ∃ value between, first before = .ok value between ∧
        next value between = .ok result after := by
  simp only [bind, EStateM.bind]
  cases first before <;> simp

theorem bind_error_iff {first : EStateM Fault State First}
    {next : First → EStateM Fault State Second} {before after : State}
    {cause : Fault} :
    (first >>= next) before = .error cause after ↔
      first before = .error cause after ∨
      ∃ value between, first before = .ok value between ∧
        next value between = .error cause after := by
  simp only [bind, EStateM.bind]
  cases first before <;> simp

@[simp]
theorem pure_ok_iff {value result : First} {before after : State} :
    (pure value : EStateM Fault State First) before = .ok result after ↔
      value = result ∧ before = after := by
  simp [pure, EStateM.pure]

@[simp]
theorem pure_ne_error {value : First} {before after : State} {cause : Fault} :
    (pure value : EStateM Fault State First) before ≠ .error cause after := by
  simp [pure, EStateM.pure]

@[simp]
theorem throw_ne_ok {cause : Fault} {before after : State} {result : First} :
    (throw cause : EStateM Fault State First) before ≠ .ok result after := by
  intro result
  cases result

@[simp]
theorem throw_error_iff {cause other : Fault} {before after : State} :
    (throw cause : EStateM Fault State First) before = .error other after ↔
      cause = other ∧ before = after := by
  show EStateM.Result.error cause before = .error other after ↔ _
  simp

@[simp]
theorem get_ok_iff {before after result : State} :
    (get : EStateM Fault State State) before = .ok result after ↔
      before = result ∧ before = after := by
  show EStateM.Result.ok before before = .ok result after ↔ _
  simp

@[simp]
theorem get_ne_error {before after : State} {cause : Fault} :
    (get : EStateM Fault State State) before ≠ .error cause after := by
  intro result
  cases result

@[simp]
theorem modify_ok_iff {change : State → State} {before after : State}
    {result : PUnit} :
    (modify change : EStateM Fault State PUnit) before = .ok result after ↔
      change before = after := by
  show EStateM.Result.ok PUnit.unit (change before) = .ok result after ↔ _
  simp

end Actions

section Leads

variable {Fault State First Second : Type} {step : State → State → Prop}

/-- An action goes from a state by steps, whether or not it stops with an error.
If it does not, its result and the state that it leaves reach the goal. -/
def Leads (step : State → State → Prop) (action : EStateM Fault State First)
    (before : State) (goal : First → State → Prop) : Prop :=
  match action before with
  | .ok value after =>
    Relation.ReflTransGen step before after ∧ goal value after
  | .error _ after => Relation.ReflTransGen step before after

theorem Leads.ok {action : EStateM Fault State First} {before after : State}
    {goal : First → State → Prop} {value : First}
    (leads : Leads step action before goal)
    (result : action before = .ok value after) :
    Relation.ReflTransGen step before after ∧ goal value after := by
  simp only [Leads] at leads
  rw [result] at leads
  exact leads

theorem Leads.error {action : EStateM Fault State First} {before after : State}
    {goal : First → State → Prop} {cause : Fault}
    (leads : Leads step action before goal)
    (result : action before = .error cause after) :
    Relation.ReflTransGen step before after := by
  simp only [Leads] at leads
  rw [result] at leads
  exact leads

theorem leads_iff {action : EStateM Fault State First} {before : State}
    {goal : First → State → Prop} :
    Leads step action before goal ↔
      (∀ value after, action before = .ok value after →
        Relation.ReflTransGen step before after ∧ goal value after) ∧
      ∀ cause after, action before = .error cause after →
        Relation.ReflTransGen step before after := by
  simp only [Leads]
  cases action before <;> simp

theorem Leads.bind {first : EStateM Fault State First}
    {next : First → EStateM Fault State Second} {before : State}
    {middle : First → State → Prop} {goal : Second → State → Prop}
    (start : Leads step first before middle)
    (rest : ∀ value between, Relation.ReflTransGen step before between →
      middle value between → Leads step (next value) between goal) :
    Leads step (first >>= next) before goal := by
  rw [leads_iff]
  refine ⟨fun result after passed => ?_, fun cause after failed => ?_⟩
  · obtain ⟨value, between, started, went⟩ := bind_ok_iff.mp passed
    obtain ⟨steps, reached⟩ := start.ok started
    obtain ⟨further, done⟩ := (rest value between steps reached).ok went
    exact ⟨steps.trans further, done⟩
  · rcases bind_error_iff.mp failed
      with stopped | ⟨value, between, started, stopped⟩
    · exact start.error stopped
    · obtain ⟨steps, reached⟩ := start.ok started
      exact steps.trans ((rest value between steps reached).error stopped)

theorem Leads.mono {action : EStateM Fault State First} {before : State}
    {goal weaker : First → State → Prop} (leads : Leads step action before goal)
    (implies : ∀ value after, Relation.ReflTransGen step before after →
      goal value after → weaker value after) :
    Leads step action before weaker := by
  rw [leads_iff] at leads ⊢
  refine ⟨fun value after passed => ?_, leads.2⟩
  obtain ⟨steps, reached⟩ := leads.1 value after passed
  exact ⟨steps, implies value after steps reached⟩

theorem Leads.widen {wide : State → State → Prop}
    {action : EStateM Fault State First} {before : State}
    {goal : First → State → Prop} (leads : Leads step action before goal)
    (wider : ∀ first second, step first second → wide first second) :
    Leads wide action before goal := by
  rw [leads_iff] at leads ⊢
  refine ⟨fun value after passed => ?_, fun cause after failed => ?_⟩
  · exact (leads.1 value after passed).imp
      (Relation.ReflTransGen.mono wider _ _) id
  · exact Relation.ReflTransGen.mono wider _ _ (leads.2 cause after failed)

theorem leads_pure {value : First} {before : State}
    {goal : First → State → Prop} (reached : goal value before) :
    Leads step (pure value : EStateM Fault State First) before goal :=
  ⟨.refl, reached⟩

theorem leads_throw {cause : Fault} {before : State}
    {goal : First → State → Prop} :
    Leads step (throw cause : EStateM Fault State First) before goal :=
  Relation.ReflTransGen.refl

theorem leads_throw_bind {cause : Fault}
    {next : First → EStateM Fault State Second} {before : State}
    {goal : Second → State → Prop} :
    Leads step ((throw cause : EStateM Fault State First) >>= next)
      before goal :=
  Relation.ReflTransGen.refl

theorem leads_get {before : State} :
    Leads step (get : EStateM Fault State State) before fun value after =>
      before = value ∧ before = after :=
  ⟨.refl, rfl, rfl⟩

theorem leads_get_bind {next : State → EStateM Fault State First}
    {before : State} {goal : First → State → Prop}
    (rest : Leads step (next before) before goal) :
    Leads step (get >>= next) before goal := by
  apply leads_get.bind
  intro _ _ _ result
  obtain ⟨rfl, rfl⟩ := result
  exact rest

theorem leads_modify {change : State → State} {before : State}
    (moved : step before (change before)) :
    Leads step (modify change : EStateM Fault State PUnit) before fun _ after =>
      after = change before :=
  ⟨.single moved, rfl⟩

/-- An action that leaves the state alone can be repeated for every value of a
list. -/
theorem leads_mapM {action : First → EStateM Fault State Second}
    {related : First → Second → Prop} {before : State}
    (each : ∀ value, Leads step (action value) before fun result after =>
      before = after ∧ related value result) (values : List First) :
    Leads step (values.mapM action) before fun results after =>
      before = after ∧ List.Forall₂ related values results := by
  induction values with
  | nil => exact leads_pure ⟨rfl, .nil⟩
  | cons value values induction =>
      rw [List.mapM_cons]
      apply (each value).bind
      intro result _ _ kept
      obtain ⟨rfl, here⟩ := kept
      apply induction.bind
      intro results _ _ kept
      obtain ⟨rfl, later⟩ := kept
      exact leads_pure ⟨rfl, .cons here later⟩

end Leads

section Stops

variable {Fault State First Second : Type} {why : Fault → State → Prop}

/-- If an action stops with an error, the state in which it stops is why. -/
def Stops (why : Fault → State → Prop) (action : EStateM Fault State First)
    (before : State) : Prop :=
  match action before with
  | .ok _ _ => True
  | .error cause after => why cause after

theorem stops_iff {action : EStateM Fault State First} {before : State} :
    Stops why action before ↔
      ∀ cause after, action before = .error cause after → why cause after := by
  simp only [Stops]
  cases action before <;> simp

theorem Stops.error {action : EStateM Fault State First} {before after : State}
    {cause : Fault} (stops : Stops why action before)
    (failed : action before = .error cause after) : why cause after :=
  stops_iff.mp stops cause after failed

theorem Stops.bind {first : EStateM Fault State First}
    {next : First → EStateM Fault State Second} {before : State}
    (start : Stops why first before)
    (rest : ∀ value between,
      first before = .ok value between → Stops why (next value) between) :
    Stops why (first >>= next) before := by
  rw [stops_iff]
  intro cause after failed
  rcases bind_error_iff.mp failed
    with stopped | ⟨value, between, passed, stopped⟩
  · exact start.error stopped
  · exact (rest value between passed).error stopped

theorem stops_of_ok {action : EStateM Fault State First} {before after : State}
    {value : First} (passed : action before = .ok value after) :
    Stops why action before := by
  simp only [Stops]
  rw [passed]
  trivial

theorem stops_pure (value : First) (before : State) :
    Stops why (pure value : EStateM Fault State First) before :=
  trivial

theorem stops_throw {cause : Fault} {before : State}
    (reason : why cause before) :
    Stops why (throw cause : EStateM Fault State First) before :=
  reason

theorem stops_get (before : State) :
    Stops why (get : EStateM Fault State State) before :=
  trivial

theorem stops_modify (change : State → State) (before : State) :
    Stops why (modify change : EStateM Fault State PUnit) before :=
  trivial

/-- If an action that leaves the state alone has a reason to stop for every
value of a list, then so has its repetition. -/
theorem stops_mapM {action : First → EStateM Fault State Second}
    {before : State} {values : List First}
    (quiet : ∀ value result after,
      action value before = .ok result after → before = after)
    (each : ∀ value ∈ values, Stops why (action value) before) :
    Stops why (values.mapM action) before := by
  induction values with
  | nil => exact stops_pure _ before
  | cons value values induction =>
      rw [List.mapM_cons]
      apply (each value List.mem_cons_self).bind
      intro result between passed
      rw [← quiet value result between passed]
      apply (induction fun other member =>
        each other (List.mem_cons_of_mem _ member)).bind
      intro results between _
      exact stops_pure _ between

end Stops

section Beside

variable {Fault State First Second : Type} {related : State → State → Prop}

/-- Side by side, two actions have the same result or stop with the same error,
and the states that they leave are related. -/
def Beside (related : State → State → Prop)
    (left right : EStateM Fault State First) (before counterpart : State) :
    Prop :=
  match left before, right counterpart with
  | .ok value after, .ok other later => value = other ∧ related after later
  | .error cause after, .error other later =>
    cause = other ∧ related after later
  | _, _ => False

theorem beside_pure {value : First} {before counterpart : State}
    (together : related before counterpart) :
    Beside related (pure value : EStateM Fault State First) (pure value) before
      counterpart :=
  ⟨rfl, together⟩

theorem beside_throw {cause : Fault} {before counterpart : State}
    (together : related before counterpart) :
    Beside related (throw cause : EStateM Fault State First) (throw cause)
      before counterpart :=
  ⟨rfl, together⟩

theorem beside_modify {change : State → State} {before counterpart : State}
    (together : related (change before) (change counterpart)) :
    Beside related (modify change : EStateM Fault State PUnit) (modify change)
      before counterpart :=
  ⟨rfl, together⟩

theorem Beside.bind {left right : EStateM Fault State First}
    {next other : First → EStateM Fault State Second}
    {before counterpart : State}
    (start : Beside related left right before counterpart)
    (rest : ∀ value after later, related after later →
      Beside related (next value) (other value) after later) :
    Beside related (left >>= next) (right >>= other) before counterpart := by
  simp only [Beside] at start
  simp only [Beside, Bind.bind, EStateM.bind]
  cases here : left before with
  | ok value after =>
      cases there : right counterpart with
      | ok same later =>
          rw [here, there] at start
          obtain ⟨rfl, together⟩ := start
          exact rest value after later together
      | error cause later =>
          rw [here, there] at start
          exact start.elim
  | error cause after =>
      cases there : right counterpart with
      | ok value later =>
          rw [here, there] at start
          exact start.elim
      | error other later =>
          rw [here, there] at start
          exact start

/-- Both sides read their states and go on. -/
theorem beside_get_bind {next other : State → EStateM Fault State Second}
    {before counterpart : State}
    (rest :
      Beside related (next before) (other counterpart) before counterpart) :
    Beside related (get >>= next) (get >>= other) before counterpart :=
  rest

/-- Actions that keep the states together can be repeated for every value of a
list. -/
theorem beside_mapM {action other : First → EStateM Fault State Second}
    (each : ∀ value before counterpart, related before counterpart →
      Beside related (action value) (other value) before counterpart)
    (values : List First) {before counterpart : State}
    (together : related before counterpart) :
    Beside related (values.mapM action) (values.mapM other) before
      counterpart := by
  induction values generalizing before counterpart with
  | nil => exact beside_pure together
  | cons value values induction =>
      rw [List.mapM_cons, List.mapM_cons]
      apply (each value before counterpart together).bind
      intro result _ _ together
      apply (induction together).bind
      intro results _ _ together
      exact beside_pure together

theorem Beside.ok {left right : EStateM Fault State First}
    {before counterpart after : State} {value : First}
    (beside : Beside related left right before counterpart)
    (result : left before = .ok value after) :
    ∃ later, right counterpart = .ok value later ∧ related after later := by
  simp only [Beside] at beside
  rw [result] at beside
  cases there : right counterpart with
  | ok other later =>
      rw [there] at beside
      obtain ⟨rfl, together⟩ := beside
      exact ⟨later, rfl, together⟩
  | error cause later =>
      rw [there] at beside
      exact beside.elim

theorem Beside.error {left right : EStateM Fault State First}
    {before counterpart after : State} {cause : Fault}
    (beside : Beside related left right before counterpart)
    (result : left before = .error cause after) :
    ∃ later, right counterpart = .error cause later ∧ related after later := by
  simp only [Beside] at beside
  rw [result] at beside
  cases there : right counterpart with
  | ok value later =>
      rw [there] at beside
      exact beside.elim
  | error other later =>
      rw [there] at beside
      obtain ⟨rfl, together⟩ := beside
      exact ⟨later, rfl, together⟩

end Beside

end CoherentTasks.Computation
