import Mathlib.Algebra.Ring.Nat
import Mathlib.Data.Set.Finite.List
import AcpTask.Library.Transaction

namespace AcpTask.Library

universe u

/-! What needs what: the order in which Kahn's algorithm places the nodes, the
least of those that wait first, and all that one node needs in the end. -/

section Needs

variable {Node : Type u}

def NeededFor (needs : Node → List Node) (needed node : Node) : Prop :=
  needed ∈ needs node

def Acyclic (needs : Node → List Node) : Prop :=
  ∀ node, ¬ Relation.TransGen (NeededFor needs) node node

def Ordered (needs : Node → List Node) (order : List Node) : Prop :=
  ∀ before node after, order = before ++ node :: after →
    ∀ needed ∈ needs node, needed ∈ before

variable {needs : Node → List Node} {order : List Node}

theorem ordered_nil : Ordered needs [] := by
  intro before node after split
  exact absurd split.symm (List.append_ne_nil_of_right_ne_nil before
    (List.cons_ne_nil node after))

theorem Ordered.snoc {node : Node} (ordered : Ordered needs order)
    (ready : ∀ needed ∈ needs node, needed ∈ order) :
    Ordered needs (order ++ [node]) := by
  intro before other after split needed member
  rcases List.eq_nil_or_concat after with rfl | ⟨rest, last, rfl⟩
  · obtain ⟨rfl, same⟩ := List.append_inj' split rfl
    cases same
    exact ready needed member
  · have longer : order ++ [node] = (before ++ other :: rest) ++ [last] := by
      simpa using split
    obtain ⟨whole, _⟩ := List.append_inj' longer rfl
    exact ordered before other rest whole needed member

theorem Ordered.acyclic [DecidableEq Node] (ordered : Ordered needs order)
    (placed : ∀ node, needs node ≠ [] → node ∈ order) : Acyclic needs := by
  have earlier : ∀ needed node, NeededFor needs needed node →
      order.idxOf needed < order.idxOf node := by
    intro needed node needing
    obtain ⟨before, after, split, absent⟩ :=
      List.eq_append_cons_of_mem (placed node (List.ne_nil_of_mem needing))
    have member := ordered before node after split needed needing
    have within := List.idxOf_lt_length_of_mem member
    rw [split, List.idxOf_append_of_mem member,
      List.idxOf_append_of_notMem absent, List.idxOf_cons_self]
    omega
  intro node cycle
  have grows : Relation.TransGen (· < ·) (order.idxOf node)
      (order.idxOf node) :=
    Relation.TransGen.lift order.idxOf earlier node node cycle
  rw [Relation.transGen_eq_self] at grows
  exact lt_irrefl _ grows

theorem Acyclic.exists_ready {nodes placed : List Node}
    (acyclic : Acyclic needs)
    (closed : ∀ node ∈ nodes, ∀ needed ∈ needs node, needed ∈ nodes)
    {left : Node} (member : left ∈ nodes) (absent : left ∉ placed) :
    ∃ node ∈ nodes, node ∉ placed ∧ ∀ needed ∈ needs node, needed ∈ placed := by
  let Before (needed node : {node // node ∈ nodes}) : Prop :=
    Relation.TransGen (NeededFor needs) needed.1 node.1
  have transitive : IsTrans {node // node ∈ nodes} Before :=
    ⟨fun _ _ _ => Relation.TransGen.trans⟩
  have irreflexive : Std.Irrefl Before := ⟨fun node => acyclic node.1⟩
  have finite : Finite {node // node ∈ nodes} := nodes.finite_toSet
  have founded : WellFounded Before :=
    Finite.wellFounded_of_trans_of_irrefl Before
  obtain ⟨node, waits, least⟩ := founded.has_min
    {node | node.1 ∉ placed} ⟨⟨left, member⟩, absent⟩
  refine ⟨node.1, node.2, waits, fun needed needing => ?_⟩
  by_contra missing
  exact least ⟨needed, closed node.1 node.2 needed needing⟩ missing
    (Relation.TransGen.single needing)

end Needs

section Kahn

variable {Node : Type u} [LinearOrder Node]

def ascending (nodes : List Node) : List Node := nodes.insertionSort (· ≤ ·)

theorem ascending_perm (nodes : List Node) : (ascending nodes).Perm nodes :=
  List.perm_insertionSort _ nodes

theorem mem_ascending {nodes : List Node} {node : Node} :
    node ∈ ascending nodes ↔ node ∈ nodes :=
  List.mem_insertionSort _

theorem ascending_eq_of_perm {nodes others : List Node}
    (perm : nodes.Perm others) : ascending nodes = ascending others :=
  List.Perm.eq_of_pairwise' (List.pairwise_insertionSort _ _)
    (List.pairwise_insertionSort _ _)
    ((ascending_perm nodes).trans (perm.trans (ascending_perm others).symm))

/-- How many needs of each node are left, the nodes that wait for none, and
the nodes placed. -/
structure Kahn (Node : Type u) where
  indegree : Node → Int
  ready : List Node
  order : List Node

namespace Kahn

def release (state : Kahn Node) (node : Node) : Kahn Node :=
  let left := state.indegree node - 1
  { state with
    indegree := Function.update state.indegree node left
    ready := if left = 0 then ascending (state.ready ++ [node])
      else state.ready }

def place (outgoing : Node → List Node) (state : Kahn Node) : Kahn Node :=
  match state.ready with
  | [] => state
  | node :: ready =>
      (ascending (outgoing node)).foldl release
        { state with ready, order := state.order ++ [node] }

def drain (outgoing : Node → List Node) : Nat → Kahn Node → Kahn Node
  | 0, state => state
  | fuel + 1, state => drain outgoing fuel (state.place outgoing)

theorem indegree_release (state : Kahn Node) (node other : Node) :
    (state.release node).indegree other =
      state.indegree other - if other = node then 1 else 0 := by
  unfold release
  dsimp only
  by_cases same : other = node
  · subst same
    simp
  · simp [same]

variable {state : Kahn Node}

theorem mem_ready_release {node other : Node} :
    other ∈ (state.release node).ready ↔
      other ∈ state.ready ∨ other = node ∧ state.indegree node = 1 := by
  unfold release
  dsimp only
  split
  · rename_i done
    have one : state.indegree node = 1 := by omega
    simp [mem_ascending, one]
  · rename_i more
    have others : state.indegree node ≠ 1 := by omega
    simp [others]

theorem nodup_ready_release {node : Node} (distinct : state.ready.Nodup)
    (zero : ∀ other ∈ state.ready, state.indegree other ≤ 0) :
    (state.release node).ready.Nodup := by
  unfold release
  dsimp only
  split
  · rename_i done
    refine (ascending_perm _).nodup_iff.mpr (List.nodup_append'.mpr
      ⟨distinct, List.nodup_singleton node, ?_⟩)
    intro other member same
    rw [List.mem_singleton.mp same] at member
    have least := zero node member
    omega
  · exact distinct

theorem released (children : List Node) (state : Kahn Node) :
    (children.foldl release state).order = state.order ∧
    (∀ node, (children.foldl release state).indegree node =
      state.indegree node - children.count node) ∧
    (∀ node, node ∈ (children.foldl release state).ready ↔
      node ∈ state.ready ∨ 0 < state.indegree node ∧
        state.indegree node ≤ children.count node) := by
  induction children generalizing state with
  | nil =>
      refine ⟨rfl, fun node => by simp, fun node => ?_⟩
      have never : ¬ (0 < state.indegree node ∧ state.indegree node ≤ 0) := by
        omega
      simp [never]
  | cons child _ induction =>
      obtain ⟨order, indegree, ready⟩ := induction (state.release child)
      refine ⟨order, fun node => ?_, fun node => ?_⟩
      · rw [List.foldl_cons, indegree, indegree_release, List.count_cons]
        by_cases same : node = child
        · subst same
          simp
          omega
        · simp [same, Ne.symm same]
      · rw [List.foldl_cons, ready, mem_ready_release, indegree_release,
          List.count_cons]
        by_cases same : node = child
        · subst same
          simp only [if_true, true_and, beq_self_eq_true]
          constructor
          · rintro ((waits | one) | ⟨more, most⟩)
            · exact .inl waits
            · exact .inr (by omega)
            · exact .inr (by omega)
          · rintro (waits | ⟨more, most⟩)
            · exact .inl (.inl waits)
            · by_cases one : state.indegree node = 1
              · exact .inl (.inr one)
              · exact .inr (by omega)
        · simp [same, Ne.symm same]

theorem nodup_ready_foldl {children : List Node} {state : Kahn Node}
    (distinct : state.ready.Nodup)
    (zero : ∀ node ∈ state.ready, state.indegree node ≤ 0) :
    (children.foldl release state).ready.Nodup := by
  induction children generalizing state with
  | nil => exact distinct
  | cons _ _ induction =>
      refine induction (nodup_ready_release distinct zero) ?_
      intro node member
      rw [indegree_release]
      rcases mem_ready_release.mp member with waits | ⟨rfl, one⟩
      · have least := zero node waits
        split <;> omega
      · simp [one]

variable {outgoing : Node → List Node}

theorem place_of_idle (idle : state.ready = []) :
    state.place outgoing = state := by
  unfold place
  rw [idle]

theorem length_order_place (busy : state.ready ≠ []) :
    (state.place outgoing).order.length = state.order.length + 1 := by
  unfold place
  split
  · rename_i idle
    exact absurd idle busy
  · rw [(released _ _).1]
    exact List.length_append

theorem drain_congr {others : Node → List Node}
    (same : ∀ node, (outgoing node).Perm (others node)) (fuel : Nat)
    (state : Kahn Node) :
    state.drain outgoing fuel = state.drain others fuel := by
  have ascends : ∀ node, ascending (outgoing node) = ascending (others node) :=
    fun node => ascending_eq_of_perm (same node)
  induction fuel generalizing state with
  | zero => rfl
  | succ _ induction =>
      rw [drain, drain, induction]
      unfold place
      simp only [ascends]

theorem drained (outgoing : Node → List Node) (fuel : Nat)
    (state : Kahn Node) : (state.drain outgoing fuel).ready = [] ∨
      (state.drain outgoing fuel).order.length = state.order.length + fuel := by
  induction fuel generalizing state with
  | zero => exact .inr rfl
  | succ fuel induction =>
      by_cases idle : state.ready = []
      · rw [drain, place_of_idle idle]
        rcases induction state with stopped | placed
        · exact .inl stopped
        · have same : ∀ fuel, state.drain outgoing fuel = state := by
            intro fuel
            induction fuel with
            | zero => rfl
            | succ _ again => rw [drain, place_of_idle idle, again]
          rw [same]
          exact .inl idle
      · rcases induction (state.place outgoing) with stopped | placed
        · exact .inl stopped
        · rw [length_order_place idle] at placed
          exact .inr (by rw [drain, placed]; omega)

end Kahn

structure Dependencies (Node : Type u) [DecidableEq Node] where
  nodes : List Node
  needs : Node → List Node
  outgoing : Node → List Node
  distinct : nodes.Nodup
  closed : ∀ node, ∀ needed ∈ needs node, node ∈ nodes ∧ needed ∈ nodes
  balanced : ∀ node needed,
    (outgoing needed).count node = (needs node).count needed

namespace Dependencies

variable (graph : Dependencies Node)

def start : Kahn Node where
  indegree node := (graph.needs node).length
  ready := ascending (graph.nodes.filter fun node => graph.needs node = [])
  order := []

structure Sound (state : Kahn Node) : Prop where
  distinct : (state.order ++ state.ready).Nodup
  inside : ∀ node ∈ state.order ++ state.ready, node ∈ graph.nodes
  counted : ∀ node, state.indegree node =
    ((graph.needs node).filter fun needed => needed ∉ state.order).length
  waiting : ∀ node ∈ graph.nodes,
    (node ∈ state.order ++ state.ready ↔ state.indegree node = 0)
  ordered : Ordered graph.needs state.order

variable {graph}

theorem sound_start : graph.Sound graph.start where
  distinct := (ascending_perm _).nodup_iff.mpr (graph.distinct.filter _)
  inside node member := (List.mem_filter.mp (mem_ascending.mp member)).1
  counted node := by simp [start]
  waiting node member := by
    simp [start, mem_ascending, member]
  ordered := ordered_nil

theorem length_filter_snoc {needed order : List Node} {placed : Node}
    (absent : placed ∉ order) :
    ((needed.filter fun node => node ∉ order ++ [placed]).length : Int) =
      (needed.filter fun node => node ∉ order).length -
        needed.count placed := by
  induction needed with
  | nil => rfl
  | cons node _ induction =>
      by_cases same : node = placed
      · subst same
        simp [absent] at induction ⊢
        omega
      · by_cases member : node ∈ order
        · simp [member, same] at induction ⊢
          omega
        · simp [member, same] at induction ⊢
          omega

theorem Sound.place {state : Kahn Node} (sound : graph.Sound state) :
    graph.Sound (state.place graph.outgoing) := by
  unfold Kahn.place
  split
  · exact sound
  · rename_i node ready waits
    obtain ⟨distinct, inside, counted, waiting, ordered⟩ := sound
    rw [waits] at distinct inside waiting
    obtain ⟨orderOnce, readyOnce, apart⟩ := List.nodup_append'.mp distinct
    have absent : node ∉ state.order := fun member =>
      apart member List.mem_cons_self
    have ours : node ∈ graph.nodes := inside node (by simp)
    have zero : ∀ other ∈ node :: ready, state.indegree other = 0 :=
      fun other member =>
        (waiting other (inside other (List.mem_append_right _ member))).mp
          (List.mem_append_right _ member)
    have met : ∀ needed ∈ graph.needs node, needed ∈ state.order := by
      intro needed member
      have none := (counted node).symm.trans (zero node List.mem_cons_self)
      rw [Int.natCast_eq_zero, List.length_eq_zero_iff,
        List.filter_eq_nil_iff] at none
      simpa using none needed member
    have children : ∀ other, (ascending (graph.outgoing node)).count other =
        (graph.needs other).count node := by
      intro other
      rw [(ascending_perm _).count_eq, graph.balanced]
    have fewer : ∀ other, ((graph.needs other).filter fun needed =>
        needed ∉ state.order ++ [node]).length = state.indegree other -
          (graph.needs other).count node := by
      intro other
      rw [counted, length_filter_snoc absent]
    obtain ⟨order, indegree, queue⟩ := Kahn.released
      (ascending (graph.outgoing node))
      { state with ready, order := state.order ++ [node] }
    have once := @Kahn.nodup_ready_foldl _ _
      (ascending (graph.outgoing node))
      { state with ready, order := state.order ++ [node] }
      (List.nodup_cons.mp readyOnce).2
      fun other member => (zero other (List.mem_cons_of_mem _ member)).le
    generalize (ascending (graph.outgoing node)).foldl Kahn.release
      { state with ready, order := state.order ++ [node] } = next at *
    simp only [children] at indegree queue
    have released : ∀ other, other ∈ next.order ++ next.ready ↔
        other ∈ state.order ++ node :: ready ∨ 0 < state.indegree other ∧
          state.indegree other ≤ (graph.needs other).count node := by
      intro other
      rw [order, List.mem_append, queue]
      simp only [List.mem_append, List.mem_cons, List.not_mem_nil, or_false]
      tauto
    refine ⟨?_, ?_, ?_, ?_, ?_⟩
    · rw [order]
      refine List.nodup_append'.mpr ⟨?_, once, ?_⟩
      · exact List.nodup_append'.mpr ⟨orderOnce, List.nodup_singleton node,
          fun other member same => absent (List.mem_singleton.mp same ▸ member)⟩
      · intro other placed waits
        have none : state.indegree other = 0 := by
          rcases List.mem_append.mp placed with member | same
          · exact (waiting other (inside other
              (List.mem_append_left _ member))).mp
                (List.mem_append_left _ member)
          · rw [List.mem_singleton.mp same]
            exact zero node List.mem_cons_self
        rcases (queue other).mp waits with member | ⟨more, _⟩
        · rcases List.mem_append.mp placed with earlier | same
          · exact apart earlier (List.mem_cons_of_mem _ member)
          · rw [List.mem_singleton.mp same] at member
            exact (List.nodup_cons.mp readyOnce).1 member
        · omega
    · intro other member
      rcases (released other).mp member with before | ⟨more, most⟩
      · exact inside other before
      · have needing : node ∈ graph.needs other := by
          refine List.count_pos_iff.mp ?_
          omega
        exact (graph.closed other node needing).1
    · intro other
      rw [order, indegree]
      exact (fewer other).symm
    · intro other member
      rw [released, waiting other member, indegree]
      have least := fewer other
      omega
    · rw [order]
      exact ordered.snoc met

theorem Sound.drain {state : Kahn Node} (sound : graph.Sound state)
    (fuel : Nat) : graph.Sound (state.drain graph.outgoing fuel) := by
  induction fuel generalizing state with
  | zero => exact sound
  | succ _ induction => exact induction sound.place

def placed (graph : Dependencies Node) : List Node :=
  (graph.start.drain graph.outgoing graph.nodes.length).order

theorem sound_drained : graph.Sound
    (graph.start.drain graph.outgoing graph.nodes.length) :=
  sound_start.drain _

theorem ready_drained :
    (graph.start.drain graph.outgoing graph.nodes.length).ready = [] := by
  have sound : graph.Sound
      (graph.start.drain graph.outgoing graph.nodes.length) := sound_drained
  rcases Kahn.drained graph.outgoing graph.nodes.length graph.start with
    idle | full
  · exact idle
  · have most := (sound.distinct.subperm sound.inside).length_le
    rw [List.length_append, full] at most
    exact List.length_eq_zero_iff.mp (by omega)

theorem ordered_placed : Ordered graph.needs graph.placed :=
  sound_drained.ordered

theorem placed_subperm : graph.placed.Subperm graph.nodes := by
  have sound : graph.Sound
      (graph.start.drain graph.outgoing graph.nodes.length) := sound_drained
  refine (sound.distinct.sublist
    (List.sublist_append_left _ _)).subperm fun node member => ?_
  exact sound.inside node (List.mem_append_left _ member)

theorem placed_perm_of_length
    (full : graph.placed.length = graph.nodes.length) :
    graph.placed.Perm graph.nodes :=
  placed_subperm.perm_of_length_le full.ge

theorem length_placed_iff :
    graph.placed.length = graph.nodes.length ↔ Acyclic graph.needs := by
  constructor
  · intro full
    refine ordered_placed.acyclic fun node needing => ?_
    obtain ⟨needed, member⟩ := List.exists_mem_of_ne_nil _ needing
    exact (placed_perm_of_length full).mem_iff.mpr
      (graph.closed node needed member).1
  · intro acyclic
    refine le_antisymm placed_subperm.length_le ?_
    refine (graph.distinct.subperm fun left member => ?_).length_le
    by_contra absent
    obtain ⟨node, ours, waits, met⟩ := acyclic.exists_ready
      (fun node _ needed needing => (graph.closed node needed needing).2)
      member absent
    have sound : graph.Sound
        (graph.start.drain graph.outgoing graph.nodes.length) := sound_drained
    refine waits ?_
    have none : ((graph.needs node).filter fun needed =>
        needed ∉ graph.placed) = [] := by
      refine List.filter_eq_nil_iff.mpr fun needed needing => ?_
      simpa using met needed needing
    have done := (sound.waiting node ours).mpr (by
      rw [sound.counted]
      exact Int.natCast_eq_zero.mpr (List.length_eq_zero_iff.mpr none))
    rw [ready_drained, List.append_nil] at done
    exact done

end Dependencies

end Kahn

section Gathering

universe v

variable {Node : Type u} [DecidableEq Node] {Error : Type v}
  {needs : Node → Except Error (List Node)} {running : Error}

/-- Everything on the list and all it needs: the last one listed is taken, and
what it needs is listed unless it was taken before. -/
def gather (needs : Node → Except Error (List Node)) (running : Error) :
    Nat → List Node → List Node → Except Error (List Node)
  | fuel, taken, pending =>
      match pending.getLast?, fuel with
      | none, _ => .ok taken
      | some _, 0 => .error running
      | some node, fuel + 1 =>
          if node ∈ taken then gather needs running fuel taken pending.dropLast
          else do
            let more ← needs node
            gather needs running fuel (taken ++ [node])
              (pending.dropLast ++ more)

theorem gather_nil (fuel : Nat) (taken : List Node) :
    gather needs running fuel taken [] = .ok taken := by
  cases fuel <;> rfl

theorem gather_snoc_zero (taken pending : List Node) (node : Node) :
    gather needs running 0 taken (pending ++ [node]) = .error running := by
  unfold gather
  rw [List.getLast?_concat]

theorem gather_snoc (fuel : Nat) (taken pending : List Node) (node : Node) :
    gather needs running (fuel + 1) taken (pending ++ [node]) =
      if node ∈ taken then gather needs running fuel taken pending
      else needs node >>= fun more =>
        gather needs running fuel (taken ++ [node]) (pending ++ more) := by
  conv_lhs => unfold gather
  rw [List.getLast?_concat]
  dsimp only
  rw [List.dropLast_concat]

def Saturated (needs : Node → Except Error (List Node))
    (holds : Node → Prop) : Prop :=
  ∀ node more, holds node → needs node = .ok more → ∀ other ∈ more, holds other

theorem gathered {fuel : Nat} {taken pending gathered : List Node}
    (done : gather needs running fuel taken pending = .ok gathered)
    (listed : ∀ node more, node ∈ taken → needs node = .ok more →
      ∀ other ∈ more, other ∈ taken ++ pending) :
    (∀ node ∈ taken ++ pending, node ∈ gathered) ∧
    Saturated needs (· ∈ gathered) ∧
    ∀ holds : Node → Prop, Saturated needs holds →
      (∀ node ∈ taken ++ pending, holds node) →
        ∀ node ∈ gathered, holds node := by
  induction fuel generalizing taken pending with
  | zero =>
      rcases List.eq_nil_or_concat' pending with rfl | ⟨pending, node, rfl⟩
      · rw [gather_nil] at done
        cases done
        rw [List.append_nil] at listed ⊢
        exact ⟨fun _ member => member, listed, fun _ _ initial => initial⟩
      · rw [gather_snoc_zero] at done
        cases done
  | succ fuel induction =>
      rcases List.eq_nil_or_concat' pending with rfl | ⟨pending, node, rfl⟩
      · rw [gather_nil] at done
        cases done
        rw [List.append_nil] at listed ⊢
        exact ⟨fun _ member => member, listed, fun _ _ initial => initial⟩
      · rw [gather_snoc] at done
        split at done
        · rename_i known
          have same : ∀ other, other ∈ taken ++ (pending ++ [node]) ↔
              other ∈ taken ++ pending := by
            intro other
            by_cases this : other = node
            · subst this
              simp [known]
            · simp [this]
          simp only [same] at listed ⊢
          exact induction done listed
        · obtain ⟨more, needed, rest⟩ := bind_eq_ok.mp done
          obtain ⟨first, saturated, least⟩ := induction rest (by
            intro other wanted member found third inside
            rcases List.mem_append.mp member with before | this
            · have place := listed other wanted before found third inside
              simp only [List.mem_append, List.mem_singleton] at place ⊢
              tauto
            · rw [List.mem_singleton.mp this, needed] at found
              cases found
              simp [inside])
          refine ⟨fun other member => first other ?_, saturated,
            fun holds closed initial => least holds closed fun other member => ?_⟩
          · simp only [List.mem_append, List.mem_singleton] at member ⊢
            tauto
          · simp only [List.mem_append, List.mem_singleton] at member
            rcases member with (before | rfl) | waits | inside
            · exact initial other (by simp [before])
            · exact initial other (by simp)
            · exact initial other (by simp [waits])
            · exact closed node more (initial node (by simp)) needed other
                inside

def unlisted (needs : Node → Except Error (List Node))
    (nodes taken : List Node) : Nat :=
  ((nodes.filter fun node => node ∉ taken).map fun node =>
    match needs node with
    | .ok more => more.length
    | .error _ => 0).sum

theorem unlisted_snoc {nodes taken more : List Node} {node : Node}
    (distinct : nodes.Nodup) (member : node ∈ nodes) (absent : node ∉ taken)
    (needed : needs node = .ok more) :
    unlisted needs nodes (taken ++ [node]) + more.length =
      unlisted needs nodes taken := by
  induction nodes with
  | nil => cases member
  | cons first nodes induction =>
      obtain ⟨apart, distinct⟩ := List.nodup_cons.mp distinct
      by_cases this : first = node
      · subst this
        have others : (nodes.filter fun other => other ∉ taken ++ [first]) =
            nodes.filter fun other => other ∉ taken := by
          refine List.filter_congr fun other inside => ?_
          have different : other ≠ first := fun same => apart (same ▸ inside)
          simp [different]
        unfold unlisted
        rw [List.filter_cons_of_neg (by simp),
          List.filter_cons_of_pos (by simpa using absent), others]
        simp [needed, Nat.add_comm]
      · have rest := induction distinct
          ((List.mem_cons.mp member).resolve_left (Ne.symm this))
        unfold unlisted at rest ⊢
        by_cases before : first ∈ taken
        · rw [List.filter_cons_of_neg (by simp [before]),
            List.filter_cons_of_neg (by simp [before])]
          exact rest
        · rw [List.filter_cons_of_pos (by simp [before, this]),
            List.filter_cons_of_pos (by simp [before]), List.map_cons,
            List.map_cons, List.sum_cons, List.sum_cons]
          omega

theorem gather_finishes {nodes : List Node} (distinct : nodes.Nodup)
    (total : ∀ node ∈ nodes, ∃ more, needs node = .ok more ∧
      ∀ other ∈ more, other ∈ nodes)
    {fuel : Nat} {taken pending : List Node}
    (inside : ∀ node ∈ pending, node ∈ nodes)
    (enough : pending.length + unlisted needs nodes taken ≤ fuel) :
    ∃ gathered, gather needs running fuel taken pending = .ok gathered := by
  induction fuel generalizing taken pending with
  | zero =>
      have empty : pending = [] := List.length_eq_zero_iff.mp (by omega)
      subst empty
      exact ⟨taken, gather_nil 0 taken⟩
  | succ fuel induction =>
      rcases List.eq_nil_or_concat' pending with rfl | ⟨pending, node, rfl⟩
      · exact ⟨taken, gather_nil _ taken⟩
      · have others : ∀ other ∈ pending, other ∈ nodes := fun other member =>
          inside other (List.mem_append_left _ member)
        rw [List.length_append, List.length_singleton] at enough
        rw [gather_snoc]
        split
        · exact induction others (by omega)
        · rename_i absent
          have ours : node ∈ nodes := inside node (by simp)
          obtain ⟨more, needed, within⟩ := total node ours
          have fewer := unlisted_snoc distinct ours absent needed
          rw [needed]
          refine @induction (taken ++ [node]) (pending ++ more) ?_ ?_
          · intro other member
            rcases List.mem_append.mp member with before | later
            · exact others other before
            · exact within other later
          · rw [List.length_append]
            omega

end Gathering

end AcpTask.Library
