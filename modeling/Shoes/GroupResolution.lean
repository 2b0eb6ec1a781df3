import Mathlib.Data.List.AList
import Shoes.Wire
import Shoes.Lib.DependencyOrder

/-!
# Resolving groups that reference groups

`config/validate.rs` flattens named groups whose selections may name other groups: client
groups (`resolve_client_groups_topologically`) and the composition of DNS groups
(`expand_dns_groups_composition`). Both build the map from each group to the groups it names,
order it with `topological_sort` (Kahn's algorithm over a stack of ready groups), and expand the
groups in that order, each from the expansions already made.

A `HashMap` is an `AList`, its entries in the order the map is iterated; the `in_degree` map is a
list of pairs, so that the sort's loop terminates by the degrees and queue it holds, whatever
they are. The main results: `topologicalSort` returns exactly when the references have no cycle,
and then lists every group after the groups it names (`topologicalSort_spec`); the resolution of
either kind of group returns exactly when every reference is to a group and there is no cycle,
and then each group is its selections with each reference replaced by the referenced group's
expansion.
-/

namespace Shoes.Validate

open Wire DependencyOrder

/-- A `HashMap<String, V>`: its entries in the order it is iterated. -/
abbrev StringMap (V : Type) := AList fun _ : String => V

/-- `*deg = value` through `in_degree.get_mut(name)`. -/
def setDegree : List (String × Nat) → String → Nat → List (String × Nat)
  | [], _, _ => []
  | (key, degree) :: rest, name, value =>
    if key = name then (key, value) :: rest else (key, degree) :: setDegree rest name value

def bumpDegree (inDegree : List (String × Nat)) (name : String) : List (String × Nat) :=
  match inDegree.lookup name with
  | some degree => setDegree inDegree name (degree + 1)
  | none => inDegree ++ [(name, 1)]

/-- `reverse_deps.entry(dep).or_default().push(name)`; an absent entry and an empty one are
iterated alike, so the map is a function to lists. -/
def pushDependent (reverseDeps : String → List String) (dep name : String) : String → List String :=
  Function.update reverseDeps dep (reverseDeps dep ++ [name])

/-- One reference `dep` of group `name`: the body of the inner loop that counts degrees. -/
def countReference (name : String) (counts : List (String × Nat) × (String → List String))
    (dep : String) : List (String × Nat) × (String → List String) :=
  (bumpDegree counts.1 name, pushDependent counts.2 dep name)

/-- The first two loops of `topological_sort`: every group starts at in-degree zero (the keys
are distinct, so `or_insert(0)` adds each), then each reference adds one to its group's degree
and lists the group among the dependents of the group it names. -/
def countDegrees (dependencies : StringMap (List String)) :
    List (String × Nat) × (String → List String) :=
  dependencies.entries.foldl (fun counts entry => entry.2.foldl (countReference entry.1) counts)
    (dependencies.keys.map fun name => (name, 0), fun _ => [])

/-- The inner loop of `topological_sort` for one popped node: each dependent's degree falls by
one (`*deg -= 1`, which panics below zero), and a dependent whose degree reaches zero is pushed. -/
def settle (inDegree : List (String × Nat)) (queue : List String) :
    List String → Result (List (String × Nat) × List String)
  | [] => .ok (inDegree, queue)
  | dependent :: dependents =>
    match inDegree.lookup dependent with
    | some degree => do
      let degree ← usizeSub degree 1
      settle (setDegree inDegree dependent degree)
        (if degree = 0 then queue ++ [dependent] else queue) dependents
    | none => settle inDegree queue dependents

/-- The degrees and the queue together never grow. -/
def pending (inDegree : List (String × Nat)) (queue : List String) : Nat :=
  (inDegree.map Prod.snd).sum + queue.length

theorem pending_setDegree {inDegree : List (String × Nat)} {name : String} {degree : Nat}
    (found : inDegree.lookup name = some degree) (value : Nat) :
    ((setDegree inDegree name value).map Prod.snd).sum + degree =
      (inDegree.map Prod.snd).sum + value := by
  induction inDegree with
  | nil => cases found
  | cons entry rest more =>
    obtain ⟨key, old⟩ := entry
    by_cases same : key = name
    · subst same
      simp only [List.lookup_cons_self, Option.some.injEq] at found
      subst found
      simp only [setDegree, if_true, List.map_cons, List.sum_cons]
      omega
    · have inRest : rest.lookup name = some degree := by
        simpa only [List.lookup_cons, beq_eq_false_iff_ne.mpr (Ne.symm same)] using found
      simp only [setDegree, if_neg same, List.map_cons, List.sum_cons]
      have := more inRest
      omega

theorem settle_pending {inDegree : List (String × Nat)} {queue dependents : List String}
    {after : List (String × Nat) × List String}
    (settled : settle inDegree queue dependents = .ok after) :
    pending after.1 after.2 ≤ pending inDegree queue := by
  induction dependents generalizing inDegree queue with
  | nil =>
    cases settled
    exact Nat.le_refl _
  | cons dependent rest more =>
    rcases found : inDegree.lookup dependent with _ | degree
    · simp only [settle, found] at settled
      exact more settled
    · simp only [settle, found] at settled
      have positive : 1 ≤ degree := by
        by_contra zero
        rw [usizeSub_of_lt (by omega)] at settled
        cases settled
      rw [usizeSub_of_le positive, ok_bind] at settled
      have step := more settled
      have sum := pending_setDegree found (degree - 1)
      have pushed : (if degree - 1 = 0 then queue ++ [dependent] else queue).length ≤
          queue.length + 1 := by
        split <;> simp
      unfold pending at step ⊢
      omega

/-- The `while let Some(node) = queue.pop()` loop: pop the last node, add it to the result, and
settle its dependents. -/
def popLoop (reverseDeps : String → List String) (inDegree : List (String × Nat))
    (queue result : List String) : Result (List String) :=
  match _popped : queue.getLast? with
  | none => .ok result
  | some node =>
    match _settled : settle inDegree queue.dropLast (reverseDeps node) with
    | .ok (inDegree', queue') => popLoop reverseDeps inDegree' queue' (result ++ [node])
    | .error fault => .error fault
termination_by pending inDegree queue
decreasing_by
  have nonempty : queue ≠ [] := fun empty => by simp [empty] at _popped
  have shorter : queue.dropLast.length + 1 = queue.length := by
    rw [List.length_dropLast]
    have := List.length_pos_of_ne_nil nonempty
    omega
  have := settle_pending _settled
  dsimp only at this
  unfold pending at this ⊢
  omega

def topologicalSort (dependencies : StringMap (List String)) : Result (List String) := do
  let (inDegree, reverseDeps) := countDegrees dependencies
  let queue := (inDegree.filter fun entry => entry.2 = 0).map Prod.fst
  let result ← popLoop reverseDeps inDegree queue []
  if result.length ≠ dependencies.entries.length then
    let inCycle := dependencies.keys.filter fun key => key ∉ result
    fail .invalidInput ("Circular dependency detected in client groups: " ++ ", ".intercalate inCycle)
  else .ok result

/-! ## Degrees held for every key

While the sort runs, `in_degree` holds one entry for each key, in the order of the keys; such a
list is `keys.map fun key => (key, degree key)` for a function `degree`. -/

section Degrees

variable {keys : List String}

theorem lookup_degrees (degree : String → Nat) (name : String) :
    (keys.map fun key => (key, degree key)).lookup name =
      if name ∈ keys then some (degree name) else none := by
  induction keys with
  | nil => rfl
  | cons key rest more =>
    by_cases same : name = key
    · subst same
      simp
    · simp only [List.map_cons, List.lookup_cons, beq_eq_false_iff_ne.mpr same, more,
        List.mem_cons, same, false_or]

theorem setDegree_degrees (distinct : keys.Nodup) (degree : String → Nat) (name : String)
    (value : Nat) :
    setDegree (keys.map fun key => (key, degree key)) name value =
      keys.map fun key => (key, Function.update degree name value key) := by
  induction keys with
  | nil => rfl
  | cons key rest more =>
    obtain ⟨fresh, distinct⟩ := List.nodup_cons.mp distinct
    by_cases same : key = name
    · subst same
      have untouched : ∀ other ∈ rest, Function.update degree key value other = degree other :=
        fun other listed => Function.update_of_ne (by rintro rfl; exact fresh listed) _ _
      simp only [List.map_cons, setDegree, if_true, Function.update_self, List.cons.injEq,
        true_and]
      exact (List.map_congr_left fun other listed => by rw [untouched other listed]).symm
    · simp only [List.map_cons, setDegree, if_neg same, more distinct,
        Function.update_of_ne same]

theorem ready_degrees (degree : String → Nat) :
    ((keys.map fun key => (key, degree key)).filter fun entry => entry.2 = 0).map Prod.fst =
      keys.filter fun key => degree key = 0 := by
  induction keys with
  | nil => rfl
  | cons key rest more =>
    by_cases zero : degree key = 0 <;> simp [zero, more]

theorem settle_degrees (distinct : keys.Nodup) {degree : String → Nat} {queue : List String}
    {dependents : List String} (inKeys : ∀ dependent ∈ dependents, dependent ∈ keys)
    (enough : ∀ key, dependents.count key ≤ degree key) :
    ∃ pushed, settle (keys.map fun key => (key, degree key)) queue dependents =
        .ok (keys.map (fun key => (key, degree key - dependents.count key)), queue ++ pushed) ∧
      pushed.Nodup ∧ ∀ key, key ∈ pushed ↔ key ∈ dependents ∧ degree key = dependents.count key := by
  induction dependents generalizing degree queue with
  | nil => exact ⟨[], by simp [settle], List.nodup_nil, by simp⟩
  | cons dependent rest more =>
    have listed : dependent ∈ keys := inKeys dependent List.mem_cons_self
    have positive : 1 ≤ degree dependent := by
      have := enough dependent
      rw [List.count_cons_self] at this
      omega
    let lowered := Function.update degree dependent (degree dependent - 1)
    have restEnough : ∀ key, rest.count key ≤ lowered key := by
      intro key
      by_cases same : key = dependent
      · subst same
        have := enough key
        simp only [List.count_cons_self] at this
        simp only [lowered, Function.update_self]
        omega
      · have := enough key
        simp only [List.count_cons, beq_eq_false_iff_ne.mpr (Ne.symm same)] at this
        simp only [lowered, Function.update_of_ne same]
        omega
    obtain ⟨pushed, run, distinctPushed, pushedMem⟩ :=
      @more lowered (if degree dependent - 1 = 0 then queue ++ [dependent] else queue)
        (fun other inRest => inKeys other (List.mem_cons_of_mem _ inRest)) restEnough
    have fallen : ∀ key, lowered key - rest.count key = degree key - (dependent :: rest).count key := by
      intro key
      by_cases same : key = dependent
      · subst same
        simp only [lowered, Function.update_self, List.count_cons_self]
        omega
      · simp only [lowered, Function.update_of_ne same, List.count_cons,
          beq_eq_false_iff_ne.mpr (Ne.symm same)]
        rfl
    refine ⟨(if degree dependent - 1 = 0 then [dependent] else []) ++ pushed, ?_, ?_, ?_⟩
    · simp only [settle, lookup_degrees, if_pos listed, usizeSub_of_le positive, ok_bind,
        setDegree_degrees distinct]
      rw [run]
      simp only [fallen]
      split <;> simp
    · split
      · next last =>
        refine List.nodup_cons.mpr ⟨fun again => ?_, distinctPushed⟩
        obtain ⟨inRest, equal⟩ := (pushedMem dependent).mp again
        have : lowered dependent = 0 := by simp only [lowered, Function.update_self, last]
        exact (List.count_pos_iff.mpr inRest).ne' (equal ▸ this)
      · exact distinctPushed
    · intro key
      rw [List.mem_append, pushedMem]
      by_cases same : key = dependent
      · subst same
        have lowerKey : lowered key = degree key - 1 := Function.update_self _ _ _
        have bound := enough key
        rw [List.count_cons_self] at bound
        rw [lowerKey, List.count_cons_self]
        split
        · simp only [List.mem_cons_self, true_or, true_and, true_iff]
          omega
        · simp only [List.not_mem_nil, false_or, List.mem_cons_self, true_and]
          constructor
          · rintro ⟨-, equal⟩
            omega
          · intro equal
            exact ⟨List.count_pos_iff.mp (by omega), by omega⟩
      · have lowerKey : lowered key = degree key := Function.update_of_ne same _ _
        rw [lowerKey, List.count_cons, beq_eq_false_iff_ne.mpr (Ne.symm same)]
        split <;> simp [same]

end Degrees

theorem length_keys {V : Type} (map : StringMap V) : map.keys.length = map.entries.length := by
  simp [AList.keys, List.keys]

/-- The groups that `name` references; none for a name that is not a key. -/
def dependsOn (dependencies : StringMap (List String)) (name : String) : List String :=
  (dependencies.lookup name).getD []

theorem dependsOn_of_not_mem {dependencies : StringMap (List String)} {name : String}
    (absent : name ∉ dependencies) : dependsOn dependencies name = [] := by
  rw [dependsOn, AList.lookup_eq_none.mpr absent, Option.getD_none]

section Counting

variable {keys : List String}

theorem bumpDegree_degrees (distinct : keys.Nodup) {name : String} (listed : name ∈ keys)
    (degree : String → Nat) :
    bumpDegree (keys.map fun key => (key, degree key)) name =
      keys.map fun key => (key, Function.update degree name (degree name + 1) key) := by
  rw [bumpDegree, lookup_degrees, if_pos listed]
  exact setDegree_degrees distinct _ _ _

theorem foldl_countReference (distinct : keys.Nodup) {name : String} (listed : name ∈ keys)
    (deps : List String) (degree : String → Nat) (reverseDeps : String → List String) :
    deps.foldl (countReference name) (keys.map (fun key => (key, degree key)), reverseDeps) =
      (keys.map fun key => (key, Function.update degree name (degree name + deps.length) key),
        fun node => reverseDeps node ++ List.replicate (deps.count node) name) := by
  induction deps generalizing degree reverseDeps with
  | nil => simp
  | cons dep rest more =>
    rw [List.foldl_cons, countReference, bumpDegree_degrees distinct listed, more]
    simp only [Function.update_idem, Function.update_self, List.length_cons, Prod.mk.injEq]
    refine ⟨by rw [Nat.add_assoc, Nat.add_comm 1], funext fun node => ?_⟩
    by_cases same : node = dep
    · subst same
      simp [pushDependent, List.replicate_succ]
    · simp [pushDependent, Function.update_of_ne same, Ne.symm same]

theorem foldl_countDegrees (distinct : keys.Nodup) (entries : List (Σ _ : String, List String))
    (nodupKeys : entries.NodupKeys) (inKeys : ∀ entry ∈ entries, entry.1 ∈ keys)
    (degree : String → Nat) (reverseDeps : String → List String) :
    entries.foldl (fun counts entry => entry.2.foldl (countReference entry.1) counts)
        (keys.map (fun key => (key, degree key)), reverseDeps) =
      (keys.map fun key => (key, degree key + ((entries.dlookup key).getD []).length),
        fun node => reverseDeps node ++
          entries.flatMap fun entry => List.replicate (entry.2.count node) entry.1) := by
  induction entries generalizing degree reverseDeps with
  | nil => simp
  | cons entry rest more =>
    obtain ⟨name, deps⟩ := entry
    obtain ⟨fresh, nodupKeys⟩ := List.nodupKeys_cons.mp nodupKeys
    have listed : name ∈ keys := inKeys _ List.mem_cons_self
    rw [List.foldl_cons, foldl_countReference distinct listed,
      more nodupKeys fun entry inRest => inKeys entry (List.mem_cons_of_mem _ inRest)]
    simp only [Prod.mk.injEq, List.flatMap_cons, List.append_assoc, and_true]
    refine List.map_congr_left fun key _ => ?_
    by_cases same : key = name
    · subst same
      simp [List.dlookup_eq_none.mpr fresh]
    · simp [Function.update_of_ne same, List.dlookup_cons_ne rest ⟨name, deps⟩ same]

theorem count_flatMap_replicate (entries : List (Σ _ : String, List String))
    (nodupKeys : entries.NodupKeys) (node name : String) :
    (entries.flatMap fun entry => List.replicate (entry.2.count node) entry.1).count name =
      ((entries.dlookup name).getD []).count node := by
  induction entries with
  | nil => simp
  | cons entry rest more =>
    obtain ⟨key, deps⟩ := entry
    obtain ⟨fresh, nodupKeys⟩ := List.nodupKeys_cons.mp nodupKeys
    rw [List.flatMap_cons, List.count_append, more nodupKeys, List.count_replicate]
    by_cases same : key = name
    · subst same
      simp [List.dlookup_eq_none.mpr fresh]
    · simp [same, List.dlookup_cons_ne rest ⟨key, deps⟩ (Ne.symm same)]

end Counting

theorem countDegrees_degrees (dependencies : StringMap (List String)) :
    (countDegrees dependencies).1 =
      dependencies.keys.map fun key => (key, (dependsOn dependencies key).length) := by
  have counted := foldl_countDegrees dependencies.keys_nodup dependencies.entries
    dependencies.nodupKeys (fun entry listed => List.mem_keys_of_mem listed) (fun _ => 0) fun _ => []
  rw [countDegrees, counted]
  simp [dependsOn, AList.lookup]

theorem countDegrees_dependents (dependencies : StringMap (List String)) (node name : String) :
    ((countDegrees dependencies).2 node).count name = (dependsOn dependencies name).count node := by
  have counted := foldl_countDegrees dependencies.keys_nodup dependencies.entries
    dependencies.nodupKeys (fun entry listed => List.mem_keys_of_mem listed) (fun _ => 0) fun _ => []
  rw [countDegrees, counted]
  simp only [List.nil_append]
  rw [count_flatMap_replicate _ dependencies.nodupKeys]
  rfl

theorem popLoop_of_empty (reverseDeps : String → List String) (inDegree : List (String × Nat))
    {queue : List String} (result : List String) (empty : queue.getLast? = none) :
    popLoop reverseDeps inDegree queue result = .ok result := by
  rw [popLoop]
  split
  · rfl
  · simp_all

theorem popLoop_of_settled {reverseDeps : String → List String} {inDegree inDegree' : List (String × Nat)}
    {queue queue' : List String} (result : List String) {node : String}
    (popped : queue.getLast? = some node)
    (settled : settle inDegree queue.dropLast (reverseDeps node) = .ok (inDegree', queue')) :
    popLoop reverseDeps inDegree queue result =
      popLoop reverseDeps inDegree' queue' (result ++ [node]) := by
  rw [popLoop]
  split
  · simp_all
  · next popped' =>
    obtain rfl : node = _ := Option.some.inj (popped.symm.trans popped')
    split <;> simp_all

section Sorting

variable (dependencies : StringMap (List String))

/-- How many of the groups that `name` references are not yet in the result. -/
def waiting (result : List String) (name : String) : Nat :=
  (dependsOn dependencies name).countP fun dep => dep ∉ result

/-- What the sort's loop keeps between pops: every key's degree is the number of its references
not yet in the result; the result and the queue are distinct keys; a key not in the result is
queued exactly when it waits for nothing; and the result is a ready order. -/
structure Sorting (inDegree : List (String × Nat)) (queue result : List String) : Prop where
  degrees : inDegree = dependencies.keys.map fun key => (key, waiting dependencies result key)
  distinct : (result ++ queue).Nodup
  known : ∀ name ∈ result ++ queue, name ∈ dependencies.keys
  ready : ∀ name ∈ dependencies.keys, name ∉ result →
    (name ∈ queue ↔ waiting dependencies result name = 0)
  ordered : ReadyOrder (dependsOn dependencies) [] result

/-- `reverseDeps` lists each group among the dependents of `node` as often as it references
`node`, as `countDegrees` builds it. -/
def Reverses (reverseDeps : String → List String) : Prop :=
  ∀ node name, (reverseDeps node).count name = (dependsOn dependencies name).count node

variable {dependencies}

theorem waiting_of_mem {result : List String} (ordered : ReadyOrder (dependsOn dependencies) [] result)
    {name : String} (listed : name ∈ result) : waiting dependencies result name = 0 := by
  refine List.countP_eq_zero.mpr fun dep depends => ?_
  have earlier := (ordered.dep_before listed depends).resolve_left List.not_mem_nil
  simpa using earlier.1

theorem count_le_waiting {result : List String} {node : String} (fresh : node ∉ result)
    (name : String) : (dependsOn dependencies name).count node ≤ waiting dependencies result name := by
  rw [List.count_eq_countP]
  refine List.countP_mono_left fun dep _ same => ?_
  have : dep = node := by simpa using same
  subst this
  simpa using fresh

theorem countP_not_mem_append {result : List String} {node : String} (fresh : node ∉ result)
    (deps : List String) :
    deps.countP (fun dep => dep ∉ result ++ [node]) + deps.count node =
      deps.countP fun dep => dep ∉ result := by
  induction deps with
  | nil => rfl
  | cons dep rest more =>
    by_cases same : dep = node
    · subst same
      have counted : (dep :: rest).count dep = rest.count dep + 1 := List.count_cons_self
      rw [List.countP_cons_of_neg (by simp), List.countP_cons_of_pos (by simpa using fresh), counted]
      omega
    · have counted : (dep :: rest).count node = rest.count node := by
        simp [same]
      by_cases done : dep ∈ result
      · rw [List.countP_cons_of_neg (by simp [done]), List.countP_cons_of_neg (by simpa using done),
          counted]
        exact more
      · rw [List.countP_cons_of_pos (by simp [done, same]), List.countP_cons_of_pos (by simpa using done),
          counted]
        omega

theorem waiting_append {result : List String} {node : String} (fresh : node ∉ result)
    (name : String) :
    waiting dependencies (result ++ [node]) name + (dependsOn dependencies name).count node =
      waiting dependencies result name :=
  countP_not_mem_append fresh _

theorem Reverses.known {reverseDeps : String → List String} (reverses : Reverses dependencies reverseDeps)
    {node name : String} (listed : name ∈ reverseDeps node) : name ∈ dependencies.keys := by
  by_contra absent
  have none : dependsOn dependencies name = [] :=
    dependsOn_of_not_mem fun member => absent (AList.mem_keys.mp member)
  have counted := reverses node name
  rw [none, List.count_nil] at counted
  exact List.count_eq_zero.mp counted listed

theorem sorting_start :
    Sorting dependencies (countDegrees dependencies).1
      (((countDegrees dependencies).1.filter fun entry => entry.2 = 0).map Prod.fst) [] := by
  have none : ∀ key, waiting dependencies [] key = (dependsOn dependencies key).length := by
    intro key
    simp [waiting]
  rw [countDegrees_degrees, ready_degrees]
  refine ⟨by simp only [none], ?_, ?_, ?_, trivial⟩
  · exact (List.filter_sublist.nodup dependencies.keys_nodup)
  · intro name listed
    simp only [List.nil_append, List.mem_filter] at listed
    exact listed.1
  · intro name listed _
    simp [List.mem_filter, listed, none]

theorem sorting_step {reverseDeps : String → List String} (reverses : Reverses dependencies reverseDeps)
    {inDegree : List (String × Nat)} {queue result : List String}
    (sorting : Sorting dependencies inDegree queue result) {node : String}
    (popped : queue.getLast? = some node) :
    ∃ inDegree' queue', settle inDegree queue.dropLast (reverseDeps node) = .ok (inDegree', queue') ∧
      Sorting dependencies inDegree' queue' (result ++ [node]) := by
  obtain ⟨degrees, distinct, known, ready, ordered⟩ := sorting
  have split : queue.dropLast ++ [node] = queue := List.dropLast_append_getLast? node popped
  have inQueue : node ∈ queue := split ▸ List.mem_append_right _ (List.mem_singleton_self node)
  have nodeKey : node ∈ dependencies.keys := known node (List.mem_append_right _ inQueue)
  have fresh : node ∉ result := fun inResult =>
    List.disjoint_of_nodup_append distinct inResult inQueue
  have nodeReady : waiting dependencies result node = 0 := (ready node nodeKey fresh).mp inQueue
  -- settling lowers each dependent by how often it references `node`
  have falls : ∀ key, waiting dependencies result key - (reverseDeps node).count key =
      waiting dependencies (result ++ [node]) key := by
    intro key
    have step : waiting dependencies (result ++ [node]) key + (dependsOn dependencies key).count node =
        waiting dependencies result key := waiting_append fresh key
    rw [reverses]
    omega
  obtain ⟨pushed, settled, distinctPushed, pushedMem⟩ :=
    @settle_degrees _ dependencies.keys_nodup (waiting dependencies result) queue.dropLast _
      (fun _ listed => reverses.known listed)
      (fun key => (reverses node key).symm ▸ count_le_waiting fresh key)
  have bounded : ∀ key, (reverseDeps node).count key ≤ waiting dependencies result key :=
    fun key => (reverses node key).symm ▸ count_le_waiting fresh key
  -- a pushed group waited only for `node`, so it was neither done nor queued
  have pushedFresh : ∀ key ∈ pushed, key ∉ result ++ queue := by
    intro key listed
    obtain ⟨isDependent, equal⟩ := (pushedMem key).mp listed
    have waits : 0 < waiting dependencies result key := equal ▸ List.count_pos_iff.mpr isDependent
    have notDone : key ∉ result := fun done => waits.ne' (waiting_of_mem ordered done)
    have notQueued : key ∉ queue := fun queued =>
      waits.ne' ((ready key (reverses.known isDependent) notDone).mp queued)
    simp [notDone, notQueued]
  have reorder : (result ++ [node] ++ (queue.dropLast ++ pushed)).Perm (result ++ queue ++ pushed) :=
    calc result ++ [node] ++ (queue.dropLast ++ pushed)
        = result ++ (node :: (queue.dropLast ++ pushed)) := by simp
      List.Perm _ (result ++ (queue.dropLast ++ node :: pushed)) :=
        List.Perm.append_left result List.perm_middle.symm
      _ = result ++ queue ++ pushed := by
        conv_rhs => rw [← split]
        simp
  rw [degrees]
  refine ⟨_, _, settled, ⟨by simp only [falls], ?_, ?_, ?_, ?_⟩⟩
  · refine reorder.nodup_iff.mpr (List.nodup_append.mpr ⟨distinct, distinctPushed, ?_⟩)
    rintro key before _ after rfl
    exact pushedFresh key after before
  · intro name listed
    simp only [List.mem_append, List.mem_singleton] at listed
    rcases listed with (done | rfl) | queued | isPushed
    · exact known name (List.mem_append_left _ done)
    · exact nodeKey
    · exact known name (List.mem_append_right _ (List.dropLast_subset _ queued))
    · exact reverses.known ((pushedMem name).mp isPushed).1
  · intro name nameKey notDone
    simp only [List.mem_append, List.mem_singleton, not_or] at notDone
    obtain ⟨notResult, notNode⟩ := notDone
    have wasQueued := ready name nameKey notResult
    rw [← falls, List.mem_append, pushedMem]
    have bound := bounded name
    constructor
    · rintro (queued | ⟨-, equal⟩)
      · have := wasQueued.mp (List.dropLast_subset _ queued)
        omega
      · omega
    · intro zero
      by_cases counted : (reverseDeps node).count name = 0
      · have waits : waiting dependencies result name = 0 := by omega
        have queued := wasQueued.mpr waits
        rw [← split, List.mem_append, List.mem_singleton] at queued
        exact Or.inl (queued.resolve_right notNode)
      · exact Or.inr ⟨List.count_pos_iff.mp (Nat.pos_of_ne_zero counted), by omega⟩
  · exact readyOrder_append_singleton.mpr ⟨ordered, by simpa using fresh, fun dep depends => by
      have := List.countP_eq_zero.mp nodeReady dep depends
      simpa using this⟩

theorem popLoop_sorting {reverseDeps : String → List String}
    (reverses : Reverses dependencies reverseDeps) {inDegree : List (String × Nat)}
    {queue result : List String} (sorting : Sorting dependencies inDegree queue result) :
    ∃ final inDegree', popLoop reverseDeps inDegree queue result = .ok final ∧
      Sorting dependencies inDegree' [] final := by
  induction inDegree, queue, result using popLoop.induct reverseDeps with
  | case1 inDegree queue result empty =>
    obtain rfl : queue = [] := List.getLast?_eq_none_iff.mp empty
    exact ⟨result, inDegree, popLoop_of_empty _ _ _ empty, sorting⟩
  | case2 inDegree queue result node popped inDegree' queue' settled more =>
    obtain ⟨_, _, settled', sorting'⟩ := sorting_step reverses sorting popped
    rw [settled] at settled'
    cases settled'
    rw [popLoop_of_settled result popped settled]
    exact more sorting'
  | case3 inDegree queue result node popped fault failed =>
    obtain ⟨_, _, settled, -⟩ := sorting_step reverses sorting popped
    rw [settled] at failed
    cases failed

theorem onCycle_mem_keys {name : String} (cycle : OnCycle (dependsOn dependencies) name) :
    name ∈ dependencies.keys := by
  by_contra absent
  obtain ⟨_, first, -⟩ := Relation.TransGen.head'_iff.mp cycle
  rw [dependsOn_of_not_mem fun member => absent (AList.mem_keys.mp member)] at first
  cases first

end Sorting

theorem topologicalSort_run (dependencies : StringMap (List String)) :
    ∃ final inDegree, Sorting dependencies inDegree [] final ∧
      topologicalSort dependencies =
        if final.length ≠ dependencies.entries.length then
          fail .invalidInput ("Circular dependency detected in client groups: " ++
            ", ".intercalate (dependencies.keys.filter fun key => key ∉ final))
        else .ok final := by
  obtain ⟨final, inDegree, run, sorting⟩ :=
    popLoop_sorting (countDegrees_dependents dependencies) sorting_start
  refine ⟨final, inDegree, sorting, ?_⟩
  rw [topologicalSort]
  simp only [run, ok_bind]

section Outcome

variable {dependencies : StringMap (List String)} {inDegree : List (String × Nat)}
  {final : List String}

theorem Sorting.stuck (sorting : Sorting dependencies inDegree [] final)
    (closed : ∀ name ∈ dependencies.keys, ∀ dep ∈ dependsOn dependencies name, dep ∈ dependencies.keys)
    {name : String} (left : name ∈ dependencies.keys.filter fun key => key ∉ final) :
    ∃ dep ∈ dependsOn dependencies name, dep ∈ dependencies.keys.filter fun key => key ∉ final := by
  obtain ⟨nameKey, notEmitted⟩ := List.mem_filter.mp left
  have notEmitted : name ∉ final := by simpa using notEmitted
  have waits : waiting dependencies final name ≠ 0 := fun zero =>
    List.not_mem_nil ((sorting.ready name nameKey notEmitted).mpr zero)
  obtain ⟨dep, depends, pending⟩ := List.countP_pos_iff.mp (Nat.pos_of_ne_zero waits)
  exact ⟨dep, depends, List.mem_filter.mpr ⟨closed name nameKey dep depends, pending⟩⟩

theorem Sorting.perm_of_complete (sorting : Sorting dependencies inDegree [] final)
    (complete : (dependencies.keys.filter fun key => key ∉ final) = []) :
    final.Perm dependencies.keys := by
  have distinct : final.Nodup := by simpa using sorting.distinct
  refine (List.perm_ext_iff_of_nodup distinct dependencies.keys_nodup).mpr fun name => ⟨?_, ?_⟩
  · exact fun emitted => sorting.known name (by simpa using emitted)
  · intro nameKey
    by_contra notEmitted
    have left : name ∈ dependencies.keys.filter fun key => key ∉ final :=
      List.mem_filter.mpr ⟨nameKey, by simpa using notEmitted⟩
    rw [complete] at left
    cases left

theorem Sorting.length_lt_of_incomplete (sorting : Sorting dependencies inDegree [] final)
    {name : String} (left : name ∈ dependencies.keys.filter fun key => key ∉ final) :
    final.length < dependencies.entries.length := by
  obtain ⟨nameKey, notEmitted⟩ := List.mem_filter.mp left
  have distinct : final.Nodup := by simpa using sorting.distinct
  have inside : final ⊆ dependencies.keys.erase name := fun emitted listed =>
    (List.mem_erase_of_ne fun same => by simp_all).mpr (sorting.known emitted (by simpa using listed))
  have fewer := distinct.length_le_of_subset inside
  rw [List.length_erase_of_mem nameKey, length_keys] at fewer
  have positive := List.length_pos_of_mem nameKey
  rw [length_keys] at positive
  omega

theorem Sorting.acyclic_iff (sorting : Sorting dependencies inDegree [] final)
    (closed : ∀ name ∈ dependencies.keys, ∀ dep ∈ dependsOn dependencies name, dep ∈ dependencies.keys) :
    Acyclic (dependsOn dependencies) ↔ (dependencies.keys.filter fun key => key ∉ final) = [] := by
  constructor
  · intro acyclic
    by_contra incomplete
    obtain ⟨name, cycle⟩ := exists_onCycle_of_stuck incomplete fun name left => sorting.stuck closed left
    exact acyclic name cycle
  · intro complete name cycle
    have emitted : name ∈ final := (sorting.perm_of_complete complete).mem_iff.mpr (onCycle_mem_keys cycle)
    exact not_onCycle_of_readyOrder sorting.ordered emitted cycle

end Outcome

/-- `topological_sort` over references to keys: it returns exactly when the references have no
cycle, then with every group once, each after the groups it references; on a cycle it fails with
the groups it could not order, among them every group on a cycle. -/
theorem topologicalSort_spec (dependencies : StringMap (List String))
    (closed : ∀ name ∈ dependencies.keys, ∀ dep ∈ dependsOn dependencies name, dep ∈ dependencies.keys) :
    (Acyclic (dependsOn dependencies) → ∃ order, topologicalSort dependencies = .ok order ∧
        order.Perm dependencies.keys ∧ ReadyOrder (dependsOn dependencies) [] order) ∧
      (¬Acyclic (dependsOn dependencies) → ∃ inCycle, inCycle ≠ [] ∧
        inCycle.Sublist dependencies.keys ∧ (∀ name, OnCycle (dependsOn dependencies) name → name ∈ inCycle) ∧
        topologicalSort dependencies =
          fail .invalidInput ("Circular dependency detected in client groups: " ++ ", ".intercalate inCycle)) := by
  obtain ⟨final, inDegree, sorting, sorted⟩ := topologicalSort_run dependencies
  constructor
  · intro acyclic
    have perm := sorting.perm_of_complete ((sorting.acyclic_iff closed).mp acyclic)
    have sameLength : final.length = dependencies.entries.length :=
      perm.length_eq.trans (length_keys dependencies)
    refine ⟨final, ?_, perm, sorting.ordered⟩
    rw [sorted, if_neg (not_not.mpr sameLength)]
  · intro cyclic
    have incomplete : (dependencies.keys.filter fun key => key ∉ final) ≠ [] := fun complete =>
      cyclic ((sorting.acyclic_iff closed).mpr complete)
    obtain ⟨name, left⟩ := List.exists_mem_of_ne_nil _ incomplete
    refine ⟨_, incomplete, List.filter_sublist, fun name cycle => ?_, ?_⟩
    · have notEmitted : name ∉ final := fun emitted =>
        not_onCycle_of_readyOrder sorting.ordered emitted cycle
      exact List.mem_filter.mpr ⟨onCycle_mem_keys cycle, by simpa using notEmitted⟩
    · rw [sorted, if_pos (sorting.length_lt_of_incomplete left).ne]

/-! ## Expanding groups in a ready order

Both resolvers walk the sorted groups and expand each from what they hold for the groups it
references. A selection either references a group (`reference`) or stands for items of its own
(`inline`); the expansion is stated once over both. -/

section Expansion

variable {S T : Type} (reference : S → Option String) (inline : S → List T)

/-- The groups a list of selections references, in order. -/
def referencesOf (selections : List S) : List String :=
  selections.filterMap reference

/-- Selections with each reference replaced by `lookup` of the group it names. -/
def expandWith (lookup : String → List T) (selections : List S) : List T :=
  selections.flatMap fun selection =>
    match reference selection with
    | some name => lookup name
    | none => inline selection

/-- `resolved` holds the groups of `raw`, each its selections with every reference replaced, in
order, by what `resolved` holds for the referenced group. -/
structure Expands (raw : StringMap (List S)) (resolved : StringMap (List T)) : Prop where
  keys : resolved.keys.Perm raw.keys
  expands : ∀ name selections, raw.lookup name = some selections →
    resolved.lookup name =
      some (expandWith reference inline (fun ref => (resolved.lookup ref).getD []) selections)

/-- The groups each group of `raw` references; none for a name that is not a group. -/
def groupReferences (raw : StringMap (List S)) (name : String) : List String :=
  ((raw.lookup name).map (referencesOf reference)).getD []

/-- Every reference is to a group of `raw`. -/
def Closed (raw : StringMap (List S)) : Prop :=
  ∀ name, ∀ ref ∈ groupReferences reference raw name, ref ∈ raw

/-- What a resolver holds after expanding the groups `done`: exactly those groups, each
referencing only groups among them, each expanded from what it holds. -/
structure Resolved (raw : StringMap (List S)) (done : List String) (resolved : StringMap (List T)) :
    Prop where
  keys : ∀ name, name ∈ resolved ↔ name ∈ done
  closed : ∀ name ∈ done, ∀ ref ∈ groupReferences reference raw name, ref ∈ done
  expands : ∀ name ∈ done, ∃ selections, raw.lookup name = some selections ∧
    resolved.lookup name =
      some (expandWith reference inline (fun ref => (resolved.lookup ref).getD []) selections)

variable {reference inline}

theorem expandWith_insert {resolved : StringMap (List T)} {selections : List S}
    (resolvedRefs : ∀ ref ∈ referencesOf reference selections, ref ∈ resolved) {name : String}
    (fresh : name ∉ resolved) (value : List T) :
    expandWith reference inline (fun ref => ((resolved.insert name value).lookup ref).getD [])
        selections =
      expandWith reference inline (fun ref => (resolved.lookup ref).getD []) selections := by
  refine List.flatMap_congr fun selection listed => ?_
  split
  · next ref named =>
    have inResolved : ref ∈ resolved :=
      resolvedRefs ref (List.mem_filterMap.mpr ⟨selection, listed, named⟩)
    have distinct : ref ≠ name := by
      rintro rfl
      exact fresh inResolved
    dsimp only
    rw [AList.lookup_insert_ne distinct]
  · rfl

theorem resolved_start (raw : StringMap (List S)) : Resolved reference inline raw [] ∅ :=
  ⟨fun name => by simp, fun _ listed => (by cases listed), fun _ listed => (by cases listed)⟩

theorem Resolved.insert {raw : StringMap (List S)} {done : List String}
    {resolved : StringMap (List T)} (state : Resolved reference inline raw done resolved)
    {name : String} {selections : List S} (found : raw.lookup name = some selections)
    (fresh : name ∉ done) (ready : ∀ ref ∈ groupReferences reference raw name, ref ∈ done) :
    Resolved reference inline raw (done ++ [name]) (resolved.insert name
      (expandWith reference inline (fun ref => (resolved.lookup ref).getD []) selections)) := by
  have notResolved : name ∉ resolved := fun member => fresh ((state.keys name).mp member)
  have refsOf : ∀ {other others}, raw.lookup other = some others →
      ∀ ref ∈ referencesOf reference others, ref ∈ groupReferences reference raw other := by
    intro other others lookedUp ref listed
    simpa [groupReferences, lookedUp] using listed
  refine ⟨fun other => ?_, fun other listed ref depends => ?_, fun other listed => ?_⟩
  · simp [AList.mem_insert, state.keys, or_comm]
  · rcases List.mem_append.mp listed with early | now
    · exact List.mem_append_left _ (state.closed other early ref depends)
    · obtain rfl := List.mem_singleton.mp now
      exact List.mem_append_left _ (ready ref depends)
  · rcases List.mem_append.mp listed with early | now
    · obtain ⟨others, lookedUp, expanded⟩ := state.expands other early
      have distinct : other ≠ name := fun same => fresh (same ▸ early)
      refine ⟨others, lookedUp, ?_⟩
      rw [AList.lookup_insert_ne distinct, expanded, expandWith_insert _ notResolved]
      exact fun ref listed =>
        (state.keys ref).mpr (state.closed other early ref (refsOf lookedUp ref listed))
    · obtain rfl := List.mem_singleton.mp now
      refine ⟨selections, found, ?_⟩
      rw [AList.lookup_insert, expandWith_insert _ notResolved]
      exact fun ref listed => (state.keys ref).mpr (ready ref (refsOf found ref listed))

theorem foldlM_resolved {raw : StringMap (List S)}
    {step : StringMap (List T) → String → Result (StringMap (List T))}
    (expandsStep : ∀ resolved name selections, raw.lookup name = some selections →
      (∀ ref ∈ referencesOf reference selections, ref ∈ resolved) →
      step resolved name = .ok (resolved.insert name
        (expandWith reference inline (fun ref => (resolved.lookup ref).getD []) selections)))
    {done order : List String} (ordered : ReadyOrder (groupReferences reference raw) done order)
    (groups : ∀ name ∈ order, name ∈ raw) {resolved : StringMap (List T)}
    (state : Resolved reference inline raw done resolved) :
    ∃ final, order.foldlM step resolved = .ok final ∧
      Resolved reference inline raw (done ++ order) final := by
  induction order generalizing done resolved with
  | nil => exact ⟨resolved, rfl, by simpa using state⟩
  | cons name rest more =>
    obtain ⟨fresh, ready, ordered⟩ := ordered
    obtain ⟨selections, found⟩ :=
      Option.isSome_iff_exists.mp (AList.lookup_isSome.mpr (groups name List.mem_cons_self))
    have held : ∀ ref ∈ referencesOf reference selections, ref ∈ resolved := fun ref listed =>
      (state.keys ref).mpr (ready ref (by simpa [groupReferences, found] using listed))
    obtain ⟨final, run, finalState⟩ := more ordered
      (fun other listed => groups other (List.mem_cons_of_mem _ listed))
      (state.insert found fresh ready)
    refine ⟨final, ?_, by simpa using finalState⟩
    rw [List.foldlM_cons, expandsStep resolved name selections found held, ok_bind, run]

theorem Resolved.expands_of_perm {raw : StringMap (List S)} {order : List String}
    {resolved : StringMap (List T)} (state : Resolved reference inline raw order resolved)
    (perm : order.Perm raw.keys) : Expands reference inline raw resolved := by
  refine ⟨(List.perm_ext_iff_of_nodup resolved.keys_nodup raw.keys_nodup).mpr fun name => ?_, ?_⟩
  · rw [← AList.mem_keys, state.keys, perm.mem_iff]
  · intro name selections found
    have listed : name ∈ order := perm.mem_iff.mpr (AList.mem_keys.mp
      (AList.lookup_isSome.mp (by simp [found])))
    obtain ⟨others, lookedUp, expanded⟩ := state.expands name listed
    rw [found, Option.some.injEq] at lookedUp
    rw [expanded, lookedUp]

end Expansion

section DependencyMap

variable {S : Type} (reference : S → Option String)

/-- The map from each group to the groups it references, built by inserting one group after
another, as both resolvers build it. -/
def dependencyMap (raw : StringMap (List S)) : StringMap (List String) :=
  raw.entries.foldl (fun dependencies entry =>
    dependencies.insert entry.1 (referencesOf reference entry.2)) ∅

/-- The check loop's early return: the first group, in the order given, with a reference to a
name that is not a group, and that reference. -/
def firstUnknown (isGroup : String → Bool) (entries : List (Σ _ : String, List String)) :
    Option (String × String) :=
  entries.findSome? fun entry => (entry.2.find? fun dep => !isGroup dep).map (entry.1, ·)

variable {reference}

theorem firstUnknown_eq_none {isGroup : String → Bool} {entries : List (Σ _ : String, List String)} :
    firstUnknown isGroup entries = none ↔ ∀ entry ∈ entries, ∀ dep ∈ entry.2, isGroup dep = true := by
  simp [firstUnknown, List.findSome?_eq_none_iff, List.find?_eq_none]

theorem entries_foldl_insert (entries : List (Σ _ : String, List S)) (nodupKeys : entries.NodupKeys)
    (start : StringMap (List String)) (fresh : ∀ entry ∈ entries, entry.1 ∉ start) :
    (entries.foldl (fun dependencies entry =>
        dependencies.insert entry.1 (referencesOf reference entry.2)) start).entries =
      (entries.map fun entry => ⟨entry.1, referencesOf reference entry.2⟩).reverse ++ start.entries := by
  induction entries generalizing start with
  | nil => rfl
  | cons entry rest more =>
    obtain ⟨restFresh, nodupKeys⟩ := List.nodupKeys_cons.mp nodupKeys
    have later : ∀ other ∈ rest, other.1 ∉ start.insert entry.1 (referencesOf reference entry.2) := by
      intro other listed
      rw [AList.mem_insert, not_or]
      exact ⟨fun same => restFresh (same ▸ List.mem_keys_of_mem listed),
        fresh other (List.mem_cons_of_mem _ listed)⟩
    rw [List.foldl_cons, more nodupKeys _ later,
      AList.entries_insert_of_notMem (fresh entry List.mem_cons_self)]
    simp

theorem entries_dependencyMap (raw : StringMap (List S)) :
    (dependencyMap reference raw).entries =
      (raw.entries.map fun entry => ⟨entry.1, referencesOf reference entry.2⟩).reverse := by
  rw [dependencyMap, entries_foldl_insert _ raw.nodupKeys _ fun _ _ => AList.notMem_empty _]
  simp

theorem lookup_dependencyMap (raw : StringMap (List S)) (name : String) :
    (dependencyMap reference raw).lookup name = (raw.lookup name).map (referencesOf reference) := by
  refine Option.ext fun deps => ?_
  rw [← Option.mem_def, AList.mem_lookup_iff, entries_dependencyMap, List.mem_reverse,
    Option.map_eq_some_iff]
  simp only [List.mem_map, Sigma.mk.injEq, heq_eq_eq]
  constructor
  · rintro ⟨⟨key, selections⟩, listed, rfl, rfl⟩
    exact ⟨selections, AList.mem_lookup_iff.mpr listed, rfl⟩
  · rintro ⟨selections, found, rfl⟩
    exact ⟨⟨name, selections⟩, AList.mem_lookup_iff.mp found, rfl, rfl⟩

theorem dependsOn_dependencyMap (raw : StringMap (List S)) :
    dependsOn (dependencyMap reference raw) = groupReferences reference raw := by
  funext name
  rw [dependsOn, lookup_dependencyMap, groupReferences]

theorem mem_dependencyMap {raw : StringMap (List S)} {name : String} :
    name ∈ dependencyMap reference raw ↔ name ∈ raw := by
  rw [← AList.lookup_isSome, lookup_dependencyMap, Option.isSome_map, AList.lookup_isSome]

theorem keys_dependencyMap (raw : StringMap (List S)) :
    (dependencyMap reference raw).keys.Perm raw.keys := by
  refine (List.perm_ext_iff_of_nodup (AList.keys_nodup _) raw.keys_nodup).mpr fun name => ?_
  rw [← AList.mem_keys, ← AList.mem_keys, mem_dependencyMap]

theorem closed_iff {raw : StringMap (List S)} {entries : List (Σ _ : String, List String)}
    (same : ∀ entry, entry ∈ entries ↔
      entry ∈ raw.entries.map fun entry => ⟨entry.1, referencesOf reference entry.2⟩) :
    Closed reference raw ↔ firstUnknown (fun dep => dep ∈ raw) entries = none := by
  rw [firstUnknown_eq_none]
  constructor
  · intro closed entry listed dep depends
    obtain ⟨⟨name, selections⟩, inRaw, rfl⟩ := List.mem_map.mp ((same entry).mp listed)
    have found : raw.lookup name = some selections := AList.mem_lookup_iff.mpr inRaw
    simpa using closed name dep (by simpa [groupReferences, found] using depends)
  · intro known name ref depends
    obtain ⟨selections, found, listed⟩ : ∃ selections, raw.lookup name = some selections ∧
        ref ∈ referencesOf reference selections := by
      cases found : raw.lookup name with
      | none => simp [groupReferences, found] at depends
      | some selections => exact ⟨selections, rfl, by simpa [groupReferences, found] using depends⟩
    have entry : (⟨name, referencesOf reference selections⟩ : Σ _ : String, List String) ∈
        raw.entries.map fun entry => ⟨entry.1, referencesOf reference entry.2⟩ :=
      List.mem_map.mpr ⟨⟨name, selections⟩, AList.mem_lookup_iff.mp found, rfl⟩
    simpa using known _ ((same _).mpr entry) ref listed

theorem topologicalSort_dependencyMap {raw : StringMap (List S)} (closed : Closed reference raw) :
    (Acyclic (groupReferences reference raw) → ∃ order,
        topologicalSort (dependencyMap reference raw) = .ok order ∧ order.Perm raw.keys ∧
          ReadyOrder (groupReferences reference raw) [] order) ∧
      (¬Acyclic (groupReferences reference raw) → ∃ message,
        topologicalSort (dependencyMap reference raw) = fail .invalidInput message) := by
  have closedKeys : ∀ name ∈ (dependencyMap reference raw).keys,
      ∀ dep ∈ dependsOn (dependencyMap reference raw) name, dep ∈ (dependencyMap reference raw).keys := by
    intro name _ dep depends
    rw [dependsOn_dependencyMap] at depends
    exact AList.mem_keys.mp (mem_dependencyMap.mpr (closed name dep depends))
  obtain ⟨sorts, cycles⟩ := topologicalSort_spec _ closedKeys
  rw [dependsOn_dependencyMap] at sorts cycles
  refine ⟨fun acyclic => ?_, fun cyclic => ?_⟩
  · obtain ⟨order, sorted, perm, ordered⟩ := sorts acyclic
    exact ⟨order, sorted, perm.trans (keys_dependencyMap raw), ordered⟩
  · obtain ⟨inCycle, -, -, -, failed⟩ := cycles cyclic
    exact ⟨_, failed⟩

end DependencyMap

/-- `ConfigSelection<T>`: a configuration given inline, or the name of a group of them. -/
inductive ConfigSelection (T : Type)
  | config (config : T)
  | groupName (name : String)
  deriving DecidableEq, Repr

/-- The group a selection names, if it names one. -/
def ConfigSelection.groupRef {T : Type} : ConfigSelection T → Option String
  | .config _ => none
  | .groupName name => some name

/-- What an inline selection contributes. -/
def ConfigSelection.inlined {T : Type} : ConfigSelection T → List T
  | .config item => [item]
  | .groupName _ => []

section ClientGroups

variable {T : Type}

/-- One selection of the group `groupName`, appended to its expanded configurations: an inline
configuration, or the configurations of the group it names, which must be resolved already. -/
def expandSelection (resolved : StringMap (List T)) (groupName : String) (expandedConfigs : List T) :
    ConfigSelection T → Result (List T)
  | .config config => .ok (expandedConfigs ++ [config])
  | .groupName refName =>
    match resolved.lookup refName with
    | some referencedConfigs => .ok (expandedConfigs ++ referencedConfigs)
    | none => fail .invalidInput
        ("Internal error: group '" ++ refName ++ "' not resolved before '" ++ groupName ++ "'")

/-- The body of the resolution loop of `resolve_client_groups_topologically` for one group. -/
def resolveClientGroup (rawGroups : StringMap (List (ConfigSelection T)))
    (resolved : StringMap (List T)) (groupName : String) : Result (StringMap (List T)) := do
  let selections ← expect (rawGroups.lookup groupName)
  let expandedConfigs ← selections.foldlM (expandSelection resolved groupName) []
  .ok (resolved.insert groupName expandedConfigs)

/-- `resolve_client_groups_topologically`: the references are checked in the order of the
dependency map, then the groups sorted and resolved in that order. -/
def resolveClientGroupsTopologically (rawGroups : StringMap (List (ConfigSelection T))) :
    Result (StringMap (List T)) := do
  let dependencies := dependencyMap ConfigSelection.groupRef rawGroups
  match firstUnknown (fun dep => dep ∈ rawGroups) dependencies.entries with
  | some (groupName, dep) =>
    fail .invalidInput ("Client group '" ++ groupName ++ "' references unknown group '" ++ dep ++ "'")
  | none =>
    let sortedGroups ← topologicalSort dependencies
    sortedGroups.foldlM (resolveClientGroup rawGroups) ∅

theorem foldlM_expandSelection {resolved : StringMap (List T)} (groupName : String)
    {selections : List (ConfigSelection T)}
    (held : ∀ ref ∈ referencesOf ConfigSelection.groupRef selections, ref ∈ resolved)
    (expandedConfigs : List T) :
    selections.foldlM (expandSelection resolved groupName) expandedConfigs =
      .ok (expandedConfigs ++ expandWith ConfigSelection.groupRef ConfigSelection.inlined
        (fun ref => (resolved.lookup ref).getD []) selections) := by
  induction selections generalizing expandedConfigs with
  | nil => simp [expandWith]
  | cons selection rest more =>
    have restHeld : ∀ ref ∈ referencesOf ConfigSelection.groupRef rest, ref ∈ resolved :=
      fun ref listed => held ref (List.sublist_cons_self _ _ |>.filterMap _ |>.subset listed)
    cases selection with
    | config config =>
      simp [expandSelection, more restHeld, expandWith, ConfigSelection.groupRef,
        ConfigSelection.inlined]
    | groupName refName =>
      have inResolved : refName ∈ resolved :=
        held refName (by simp [referencesOf, ConfigSelection.groupRef])
      obtain ⟨referenced, lookedUp⟩ :=
        Option.isSome_iff_exists.mp (AList.lookup_isSome.mpr inResolved)
      simp [expandSelection, lookedUp, more restHeld, expandWith, ConfigSelection.groupRef]

theorem resolveClientGroup_expands (rawGroups : StringMap (List (ConfigSelection T)))
    (resolved : StringMap (List T)) (groupName : String) (selections : List (ConfigSelection T))
    (found : rawGroups.lookup groupName = some selections)
    (held : ∀ ref ∈ referencesOf ConfigSelection.groupRef selections, ref ∈ resolved) :
    resolveClientGroup rawGroups resolved groupName =
      .ok (resolved.insert groupName (expandWith ConfigSelection.groupRef ConfigSelection.inlined
        (fun ref => (resolved.lookup ref).getD []) selections)) := by
  simp [resolveClientGroup, found, foldlM_expandSelection groupName held]

/-- `resolve_client_groups_topologically` returns exactly when every reference is to a group and
the references have no cycle, and then holds every group expanded from the groups it names;
otherwise it fails with an error of kind `InvalidInput`. -/
theorem resolveClientGroupsTopologically_spec (rawGroups : StringMap (List (ConfigSelection T))) :
    (Closed ConfigSelection.groupRef rawGroups ∧
        Acyclic (groupReferences ConfigSelection.groupRef rawGroups) →
      ∃ resolved, resolveClientGroupsTopologically rawGroups = .ok resolved ∧
        Expands ConfigSelection.groupRef ConfigSelection.inlined rawGroups resolved) ∧
    (¬(Closed ConfigSelection.groupRef rawGroups ∧
        Acyclic (groupReferences ConfigSelection.groupRef rawGroups)) →
      ∃ message, resolveClientGroupsTopologically rawGroups = fail .invalidInput message) := by
  -- the check walks the dependency map, whose groups are those of `rawGroups` in reverse
  have sameEntries : ∀ entry, entry ∈ (dependencyMap ConfigSelection.groupRef rawGroups).entries ↔
      entry ∈ rawGroups.entries.map fun entry => ⟨entry.1, referencesOf ConfigSelection.groupRef entry.2⟩ := by
    intro entry
    rw [entries_dependencyMap, List.mem_reverse]
  by_cases closed : Closed ConfigSelection.groupRef rawGroups
  · have known := (closed_iff sameEntries).mp closed
    obtain ⟨sorts, cycles⟩ := topologicalSort_dependencyMap closed
    by_cases acyclic : Acyclic (groupReferences ConfigSelection.groupRef rawGroups)
    · obtain ⟨order, sorted, perm, ordered⟩ := sorts acyclic
      obtain ⟨final, run, state⟩ := foldlM_resolved (resolveClientGroup_expands rawGroups) ordered
        (fun name listed => AList.mem_keys.mpr (perm.mem_iff.mp listed)) (resolved_start rawGroups)
      refine ⟨fun _ => ⟨final, ?_, state.expands_of_perm (by simpa using perm)⟩,
        fun broken => absurd ⟨closed, acyclic⟩ broken⟩
      simp only [resolveClientGroupsTopologically, known, sorted, ok_bind, run]
    · obtain ⟨message, failed⟩ := cycles acyclic
      refine ⟨fun both => absurd both.2 acyclic, fun _ => ⟨message, ?_⟩⟩
      simp only [resolveClientGroupsTopologically, known, failed, fail_bind]
  · cases found : firstUnknown (fun dep => dep ∈ rawGroups)
        (dependencyMap ConfigSelection.groupRef rawGroups).entries with
    | none => exact absurd ((closed_iff sameEntries).mpr found) closed
    | some unknown =>
      obtain ⟨groupName, dep⟩ := unknown
      refine ⟨fun both => absurd both.1 closed, fun _ =>
        ⟨"Client group '" ++ groupName ++ "' references unknown group '" ++ dep ++ "'", ?_⟩⟩
      simp only [resolveClientGroupsTopologically, found]

end ClientGroups

/-- `DnsServerSpec`: a string (a URL, `system`, or the name of a DNS group), or a server with
options, whose options the composition only copies. -/
inductive DnsServerSpec
  | simple (spec : String)
  | withOptions (url : String)
  deriving DecidableEq, Repr

def DnsServerSpec.isUrlString (s : String) : Bool :=
  s == "system" || s.contains "://"

/-- `DnsServerSpec::as_group_ref`: a plain string that is not a URL names a group. -/
def DnsServerSpec.asGroupRef : DnsServerSpec → Option String
  | .simple s => if isUrlString s then none else some s
  | .withOptions _ => none

/-- The check of one reference while the dependency map is built. -/
def checkDnsReference (dnsGroups : StringMap (List DnsServerSpec)) (groupName refName : String) :
    Result String :=
  if refName ∉ dnsGroups then
    fail .invalidInput ("DNS group '" ++ groupName ++ "' references unknown group '" ++ refName ++ "'")
  else .ok refName

/-- One group of the first loop of `expand_dns_groups_composition`: its references, checked as
they are collected (`collect::<Result<Vec<_>>>()?` stops at the first unknown one). -/
def collectDnsDependencies (dnsGroups : StringMap (List DnsServerSpec))
    (dependencies : StringMap (List String)) (entry : Σ _ : String, List DnsServerSpec) :
    Result (StringMap (List String)) := do
  let deps ← (entry.2.filterMap DnsServerSpec.asGroupRef).mapM (checkDnsReference dnsGroups entry.1)
  .ok (dependencies.insert entry.1 deps)

/-- The first loop of `expand_dns_groups_composition`. -/
def dnsDependencies (dnsGroups : StringMap (List DnsServerSpec)) :
    Result (StringMap (List String)) :=
  dnsGroups.entries.foldlM (collectDnsDependencies dnsGroups) ∅

/-- The `map_err` on the sort: an error is reworded for DNS groups, a panic stays a panic. -/
def renameSortError {α : Type} : Result α → Result α
  | .error (.error err) =>
    fail .invalidInput (err.message.replace "client groups" "DNS groups (composition)")
  | other => other

/-- The body of the expansion loop for one group: each spec that names a group is replaced by
that group's expansion (`unwrap`, a panic if it is missing), any other spec kept. -/
def expandDnsGroup (dnsGroups : StringMap (List DnsServerSpec))
    (expanded : StringMap (List DnsServerSpec)) (name : String) :
    Result (StringMap (List DnsServerSpec)) := do
  let group ← expect (dnsGroups.lookup name)
  let specs ← group.mapM fun spec =>
    match spec.asGroupRef with
    | some refName => expect (expanded.lookup refName)
    | none => .ok [spec]
  .ok (expanded.insert name specs.flatten)

def expandDnsGroupsComposition (dnsGroups : StringMap (List DnsServerSpec)) :
    Result (StringMap (List DnsServerSpec)) := do
  let dependencies ← dnsDependencies dnsGroups
  let order ← renameSortError (topologicalSort dependencies)
  order.foldlM (expandDnsGroup dnsGroups) ∅

section DnsGroups

variable {dnsGroups : StringMap (List DnsServerSpec)}

theorem mapM_checkDnsReference_known (groupName : String) {refs : List String}
    (known : ∀ ref ∈ refs, ref ∈ dnsGroups) :
    refs.mapM (checkDnsReference dnsGroups groupName) = .ok refs := by
  induction refs with
  | nil => rfl
  | cons ref rest more =>
    have restKnown : ∀ other ∈ rest, other ∈ dnsGroups := fun other listed =>
      known other (List.mem_cons_of_mem _ listed)
    simp [List.mapM_cons, checkDnsReference, known ref List.mem_cons_self, more restKnown]

theorem mapM_checkDnsReference_unknown (groupName : String) {refs : List String} {ref : String}
    (first : refs.find? (fun dep => !decide (dep ∈ dnsGroups)) = some ref) :
    refs.mapM (checkDnsReference dnsGroups groupName) =
      fail .invalidInput ("DNS group '" ++ groupName ++ "' references unknown group '" ++ ref ++ "'") := by
  induction refs with
  | nil => cases first
  | cons head rest more =>
    by_cases known : head ∈ dnsGroups
    · have inRest : rest.find? (fun dep => !decide (dep ∈ dnsGroups)) = some ref := by
        simpa [List.find?_cons, known] using first
      simp [List.mapM_cons, checkDnsReference, known, more inRest]
    · have same : head = ref := by simpa [List.find?_cons, known] using first
      subst same
      simp [List.mapM_cons, checkDnsReference, known]

theorem foldlM_collectDnsDependencies_known (entries : List (Σ _ : String, List DnsServerSpec))
    (known : firstUnknown (fun dep => dep ∈ dnsGroups)
      (entries.map fun entry => ⟨entry.1, referencesOf DnsServerSpec.asGroupRef entry.2⟩) = none)
    (start : StringMap (List String)) :
    entries.foldlM (collectDnsDependencies dnsGroups) start =
      .ok (entries.foldl (fun dependencies entry =>
        dependencies.insert entry.1 (referencesOf DnsServerSpec.asGroupRef entry.2)) start) := by
  induction entries generalizing start with
  | nil => rfl
  | cons entry rest more =>
    have allKnown := firstUnknown_eq_none.mp known
    have entryKnown : ∀ ref ∈ entry.2.filterMap DnsServerSpec.asGroupRef, ref ∈ dnsGroups :=
      fun ref listed => by simpa using allKnown _ List.mem_cons_self ref listed
    have restKnown := firstUnknown_eq_none.mpr fun other listed =>
      allKnown other (List.mem_cons_of_mem _ listed)
    rw [List.foldlM_cons, List.foldl_cons, collectDnsDependencies,
      mapM_checkDnsReference_known entry.1 entryKnown, ok_bind, ok_bind]
    exact more restKnown _

theorem foldlM_collectDnsDependencies_unknown (entries : List (Σ _ : String, List DnsServerSpec))
    {groupName ref : String}
    (found : firstUnknown (fun dep => dep ∈ dnsGroups)
      (entries.map fun entry => ⟨entry.1, referencesOf DnsServerSpec.asGroupRef entry.2⟩) =
        some (groupName, ref))
    (start : StringMap (List String)) :
    entries.foldlM (collectDnsDependencies dnsGroups) start =
      fail .invalidInput ("DNS group '" ++ groupName ++ "' references unknown group '" ++ ref ++ "'") := by
  induction entries generalizing start with
  | nil => cases found
  | cons entry rest more =>
    rw [List.foldlM_cons, collectDnsDependencies]
    simp only [List.map_cons, firstUnknown, List.findSome?_cons] at found
    cases first : (entry.2.filterMap DnsServerSpec.asGroupRef).find?
        (fun dep => !decide (dep ∈ dnsGroups)) with
    | some unknown =>
      simp only [referencesOf, first, Option.map_some, Option.some.injEq, Prod.mk.injEq] at found
      obtain ⟨rfl, rfl⟩ := found
      rw [mapM_checkDnsReference_unknown entry.1 first, fail_bind, fail_bind]
    | none =>
      simp only [referencesOf, first, Option.map_none] at found
      have entryKnown : ∀ ref ∈ entry.2.filterMap DnsServerSpec.asGroupRef, ref ∈ dnsGroups := by
        simpa using List.find?_eq_none.mp first
      rw [mapM_checkDnsReference_known entry.1 entryKnown, ok_bind, ok_bind]
      exact more found _

theorem expandDnsGroup_expands (dnsGroups : StringMap (List DnsServerSpec))
    (expanded : StringMap (List DnsServerSpec)) (name : String) (group : List DnsServerSpec)
    (found : dnsGroups.lookup name = some group)
    (held : ∀ ref ∈ referencesOf DnsServerSpec.asGroupRef group, ref ∈ expanded) :
    expandDnsGroup dnsGroups expanded name =
      .ok (expanded.insert name (expandWith DnsServerSpec.asGroupRef (fun spec => [spec])
        (fun ref => (expanded.lookup ref).getD []) group)) := by
  have specs : ∀ rest : List DnsServerSpec,
      (∀ ref ∈ referencesOf DnsServerSpec.asGroupRef rest, ref ∈ expanded) →
      ∃ parts, (rest.mapM fun spec =>
          match spec.asGroupRef with
          | some refName => expect (expanded.lookup refName)
          | none => .ok [spec]) = .ok parts ∧
        parts.flatten = expandWith DnsServerSpec.asGroupRef (fun spec => [spec])
          (fun ref => (expanded.lookup ref).getD []) rest := by
    intro rest
    induction rest with
    | nil => exact fun _ => ⟨[], rfl, rfl⟩
    | cons spec rest more =>
      intro restHeld
      obtain ⟨parts, run, flat⟩ := more fun ref listed =>
        restHeld ref (List.sublist_cons_self _ _ |>.filterMap _ |>.subset listed)
      cases named : spec.asGroupRef with
      | none =>
        refine ⟨[spec] :: parts, ?_, ?_⟩
        · simp [List.mapM_cons, named, run]
        · rw [List.flatten_cons, flat]
          simp [expandWith, named]
      | some refName =>
        have inExpanded : refName ∈ expanded :=
          restHeld refName (by simp [referencesOf, named])
        obtain ⟨referenced, lookedUp⟩ :=
          Option.isSome_iff_exists.mp (AList.lookup_isSome.mpr inExpanded)
        refine ⟨referenced :: parts, ?_, ?_⟩
        · simp [List.mapM_cons, named, lookedUp, run]
        · rw [List.flatten_cons, flat]
          simp [expandWith, named, lookedUp]
  obtain ⟨parts, run, flat⟩ := specs group held
  simp [expandDnsGroup, found, run, flat]

/-- `expand_dns_groups_composition` returns exactly when every group reference is to a group and
the references have no cycle, and then holds every group with each reference replaced by the
referenced group's expansion; otherwise it fails with an error of kind `InvalidInput`. -/
theorem expandDnsGroupsComposition_spec (dnsGroups : StringMap (List DnsServerSpec)) :
    (Closed DnsServerSpec.asGroupRef dnsGroups ∧
        Acyclic (groupReferences DnsServerSpec.asGroupRef dnsGroups) →
      ∃ expanded, expandDnsGroupsComposition dnsGroups = .ok expanded ∧
        Expands DnsServerSpec.asGroupRef (fun spec => [spec]) dnsGroups expanded) ∧
    (¬(Closed DnsServerSpec.asGroupRef dnsGroups ∧
        Acyclic (groupReferences DnsServerSpec.asGroupRef dnsGroups)) →
      ∃ message, expandDnsGroupsComposition dnsGroups = fail .invalidInput message) := by
  by_cases closed : Closed DnsServerSpec.asGroupRef dnsGroups
  · -- the check passes and builds the same dependency map as the client resolver
    have known := (closed_iff fun _ => Iff.rfl).mp closed
    have collected : dnsDependencies dnsGroups = .ok (dependencyMap DnsServerSpec.asGroupRef dnsGroups) :=
      foldlM_collectDnsDependencies_known dnsGroups.entries known ∅
    obtain ⟨sorts, cycles⟩ := topologicalSort_dependencyMap closed
    by_cases acyclic : Acyclic (groupReferences DnsServerSpec.asGroupRef dnsGroups)
    · obtain ⟨order, sorted, perm, ordered⟩ := sorts acyclic
      obtain ⟨final, run, state⟩ := foldlM_resolved (expandDnsGroup_expands dnsGroups) ordered
        (fun name listed => AList.mem_keys.mpr (perm.mem_iff.mp listed)) (resolved_start dnsGroups)
      refine ⟨fun _ => ⟨final, ?_, state.expands_of_perm (by simpa using perm)⟩,
        fun broken => absurd ⟨closed, acyclic⟩ broken⟩
      simp only [expandDnsGroupsComposition, collected, sorted, renameSortError, ok_bind, run]
    · obtain ⟨message, failed⟩ := cycles acyclic
      refine ⟨fun both => absurd both.2 acyclic, fun _ =>
        ⟨message.replace "client groups" "DNS groups (composition)", ?_⟩⟩
      simp only [expandDnsGroupsComposition, collected, failed, ok_bind]
      rfl
  · cases found : firstUnknown (fun dep => dep ∈ dnsGroups)
        (dnsGroups.entries.map fun entry => ⟨entry.1, referencesOf DnsServerSpec.asGroupRef entry.2⟩) with
    | none => exact absurd ((closed_iff fun _ => Iff.rfl).mpr found) closed
    | some unknown =>
      obtain ⟨groupName, ref⟩ := unknown
      refine ⟨fun both => absurd both.1 closed, fun _ =>
        ⟨"DNS group '" ++ groupName ++ "' references unknown group '" ++ ref ++ "'", ?_⟩⟩
      rw [expandDnsGroupsComposition, dnsDependencies,
        foldlM_collectDnsDependencies_unknown dnsGroups.entries found, fail_bind]

end DnsGroups

/-- A computation that returns, with `outcome` holding, when `condition` holds, and fails with an
error otherwise, returns exactly when `condition` holds, and `outcome` holds of whatever it
returns. -/
theorem ok_iff_of_spec {α : Type} {condition : Prop} {outcome : α → Prop} {run : Result α}
    (spec : (condition → ∃ value, run = .ok value ∧ outcome value) ∧
      (¬condition → ∃ message, run = fail .invalidInput message)) :
    ((∃ value, run = .ok value) ↔ condition) ∧ ∀ value, run = .ok value → outcome value := by
  obtain ⟨returns, fails⟩ := spec
  refine ⟨⟨fun ⟨value, returned⟩ => ?_, fun holds => ?_⟩, fun value returned => ?_⟩
  · by_contra broken
    obtain ⟨message, failed⟩ := fails broken
    rw [failed] at returned
    cases returned
  · obtain ⟨value, returned, -⟩ := returns holds
    exact ⟨value, returned⟩
  · by_cases holds : condition
    · obtain ⟨other, returnedOther, good⟩ := returns holds
      rw [returned] at returnedOther
      cases returnedOther
      exact good
    · obtain ⟨message, failed⟩ := fails holds
      rw [failed] at returned
      cases returned

/-- Group resolution flattens groups correctly. Over references to keys, the sort returns exactly
when there is no cycle (a group referencing itself, or referenced twice, counted as the map lists
it), then with every group once, after the groups it references. Each resolver returns exactly
when every reference is to a group and there is no cycle, and then maps every group to its
selections with each reference replaced, in order, by that group's own expansion. -/
theorem groupResolution_flattens :
    (∀ dependencies : StringMap (List String),
      (∀ name ∈ dependencies.keys, ∀ dep ∈ dependsOn dependencies name, dep ∈ dependencies.keys) →
        ((∃ order, topologicalSort dependencies = .ok order) ↔ Acyclic (dependsOn dependencies)) ∧
        ∀ order, topologicalSort dependencies = .ok order →
          order.Perm dependencies.keys ∧ ReadyOrder (dependsOn dependencies) [] order) ∧
    (∀ (T : Type) (rawGroups : StringMap (List (ConfigSelection T))),
      ((∃ resolved, resolveClientGroupsTopologically rawGroups = .ok resolved) ↔
          Closed ConfigSelection.groupRef rawGroups ∧
            Acyclic (groupReferences ConfigSelection.groupRef rawGroups)) ∧
        ∀ resolved, resolveClientGroupsTopologically rawGroups = .ok resolved →
          Expands ConfigSelection.groupRef ConfigSelection.inlined rawGroups resolved) ∧
    (∀ dnsGroups : StringMap (List DnsServerSpec),
      ((∃ expanded, expandDnsGroupsComposition dnsGroups = .ok expanded) ↔
          Closed DnsServerSpec.asGroupRef dnsGroups ∧
            Acyclic (groupReferences DnsServerSpec.asGroupRef dnsGroups)) ∧
        ∀ expanded, expandDnsGroupsComposition dnsGroups = .ok expanded →
          Expands DnsServerSpec.asGroupRef (fun spec => [spec]) dnsGroups expanded) := by
  refine ⟨fun dependencies closed => ok_iff_of_spec ?_, fun T rawGroups =>
    ok_iff_of_spec (resolveClientGroupsTopologically_spec rawGroups), fun dnsGroups =>
    ok_iff_of_spec (expandDnsGroupsComposition_spec dnsGroups)⟩
  obtain ⟨sorts, cycles⟩ := topologicalSort_spec dependencies closed
  refine ⟨fun acyclic => ?_, fun cyclic => ?_⟩
  · obtain ⟨order, sorted, perm, ordered⟩ := sorts acyclic
    exact ⟨order, sorted, perm, ordered⟩
  · obtain ⟨inCycle, -, -, -, failed⟩ := cycles cyclic
    exact ⟨_, failed⟩

end Shoes.Validate
