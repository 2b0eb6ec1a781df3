import Mathlib.Data.Fintype.Card
import Mathlib.Data.Set.Finite.Basic
import Mathlib.Order.WellFounded

/-!
# Orders of nodes after their dependencies

Nodes depend on the nodes `deps` lists. A ready order lists distinct nodes, each when everything
it depends on is done (`ReadyOrder`), the way a topological sort hands them out. A node on a
cycle of dependencies is never ready, so it is in no ready order (`not_onCycle_of_readyOrder`);
and when every node of a nonempty list depends on a node of the list, some node is on a cycle
(`exists_onCycle_of_stuck`), since a finite relation without cycles has a minimal element.
-/

namespace DependencyOrder

variable {α : Type*} (deps : α → List α)

/-- `order` lists distinct nodes, none of them in `done`, each when all it depends on is done or
listed before it. -/
def ReadyOrder : List α → List α → Prop
  | _, [] => True
  | done, node :: rest => node ∉ done ∧ (∀ dep ∈ deps node, dep ∈ done) ∧
      ReadyOrder (done ++ [node]) rest

/-- A chain of dependencies leads from `node` back to itself. -/
def OnCycle (node : α) : Prop :=
  Relation.TransGen (fun node dep => dep ∈ deps node) node node

/-- No node is on a cycle. -/
def Acyclic : Prop :=
  ∀ node, ¬OnCycle deps node

variable {deps}

theorem readyOrder_append_singleton {done order : List α} {node : α} :
    ReadyOrder deps done (order ++ [node]) ↔
      ReadyOrder deps done order ∧ node ∉ done ++ order ∧ ∀ dep ∈ deps node, dep ∈ done ++ order := by
  induction order generalizing done with
  | nil => simp [ReadyOrder]
  | cons first rest more =>
    simp only [List.cons_append, ReadyOrder, more, List.append_assoc, List.mem_append,
      List.mem_cons, List.not_mem_nil, false_or]
    tauto

theorem ReadyOrder.dep_before [DecidableEq α] {done order : List α}
    (ready : ReadyOrder deps done order) {node dep : α} (listed : node ∈ order)
    (depends : dep ∈ deps node) :
    dep ∈ done ∨ dep ∈ order ∧ order.idxOf dep < order.idxOf node := by
  induction order generalizing done with
  | nil => cases listed
  | cons first rest more =>
    obtain ⟨fresh, ready, later⟩ := ready
    by_cases here : node = first
    · subst here
      exact Or.inl (ready dep depends)
    · have inRest : node ∈ rest := (List.mem_cons.mp listed).resolve_left here
      rcases more later inRest with doneBefore | ⟨inList, before⟩
      · rcases List.mem_append.mp doneBefore with early | atFirst
        · exact Or.inl early
        · have same : dep = first := List.mem_singleton.mp atFirst
          subst same
          refine Or.inr ⟨List.mem_cons_self, ?_⟩
          rw [List.idxOf_cons_self, List.idxOf_cons_ne _ (Ne.symm here)]
          exact Nat.succ_pos _
      · by_cases atFirst : dep = first
        · subst atFirst
          refine Or.inr ⟨List.mem_cons_self, ?_⟩
          rw [List.idxOf_cons_self, List.idxOf_cons_ne _ (Ne.symm here)]
          exact Nat.succ_pos _
        · refine Or.inr ⟨List.mem_cons_of_mem _ inList, ?_⟩
          rw [List.idxOf_cons_ne _ (Ne.symm atFirst), List.idxOf_cons_ne _ (Ne.symm here)]
          exact Nat.succ_lt_succ before

theorem not_onCycle_of_readyOrder [DecidableEq α] {order : List α}
    (ready : ReadyOrder deps [] order) {node : α} (listed : node ∈ order) :
    ¬OnCycle deps node := by
  have falls : ∀ {first last}, first ∈ order →
      Relation.TransGen (fun node dep => dep ∈ deps node) first last →
        last ∈ order ∧ order.idxOf last < order.idxOf first := by
    intro first last inOrder chain
    induction chain with
    | single depends =>
      exact (ready.dep_before inOrder depends).resolve_left List.not_mem_nil
    | tail _ depends more =>
      obtain ⟨middle, before⟩ := more
      obtain ⟨inList, earlier⟩ := (ready.dep_before middle depends).resolve_left List.not_mem_nil
      exact ⟨inList, earlier.trans before⟩
  intro cycle
  exact Nat.lt_irrefl _ (falls listed cycle).2

/-- When every node of a nonempty list depends on a node of the list, some node is on a cycle:
otherwise "depends through a chain on" is a strict order on the list, which is finite, and a
node minimal for it depends on no node of the list. -/
theorem exists_onCycle_of_stuck {stuck : List α} (nonempty : stuck ≠ [])
    (blocked : ∀ node ∈ stuck, ∃ dep ∈ deps node, dep ∈ stuck) : ∃ node, OnCycle deps node := by
  by_contra acyclic
  simp only [not_exists] at acyclic
  let below : {node // node ∈ stuck} → {node // node ∈ stuck} → Prop := fun lower upper =>
    Relation.TransGen (fun node dep => dep ∈ deps node) upper.1 lower.1
  have : IsTrans _ below := ⟨fun _ _ _ first second => second.trans first⟩
  have : Std.Irrefl below := ⟨fun node cycle => acyclic node.1 cycle⟩
  have : Finite {node // node ∈ stuck} := (List.finite_toSet stuck).to_subtype
  obtain ⟨first, listed⟩ := List.exists_mem_of_ne_nil stuck nonempty
  obtain ⟨least, -, minimal⟩ :=
    (Finite.wellFounded_of_trans_of_irrefl below).has_min Set.univ ⟨⟨first, listed⟩, trivial⟩
  obtain ⟨dep, depends, inStuck⟩ := blocked least.1 least.2
  exact minimal ⟨dep, inStuck⟩ trivial (Relation.TransGen.single depends)

end DependencyOrder
