import GraphBrowser.Layout
import GraphBrowser.Proofs.ByteOrder
import GraphBrowser.Proofs.LinkLookup
import GraphBrowser.Proofs.NodeLookup

set_option autoImplicit false

namespace GraphBrowser

namespace NodeTable

variable {ε : Type}

theorem shown_in_order (nodes : NodeTable ε) : nodes.shown.Pairwise fun a b => octets a.1 < octets b.1 := by
  have ordered : nodes.toList.Pairwise fun a b => octets a.1 < octets b.1 :=
    Std.ExtTreeMap.ordered_keys_toList.imp fun less => (octets_lt _ _).mpr (compare_lt_iff_lt.mp less)
  exact ordered.filter _

theorem shown_ids (nodes : NodeTable ε) : (nodes.shown.map Prod.fst).Nodup := by
  refine List.pairwise_map.mpr ((shown_in_order nodes).imp ?_)
  intro a b less same
  rw [same] at less
  exact List.lt_irrefl _ less

end NodeTable

theorem place_iff (ids : List String) (distinct : ids.Nodup) (id : String) (i : Nat) :
    ids.idxOf? id = some i ↔ ids[i]? = some id := by
  rw [List.idxOf?_eq_some_iff, List.getElem?_eq_some_iff]
  constructor
  · intro ⟨below, here, _⟩
    exact ⟨below, here⟩
  · intro ⟨below, here⟩
    refine ⟨below, here, ?_⟩
    intro j earlier there
    have same : j = i := distinct.getElem_inj_iff.mp (there.trans here.symm)
    exact Nat.ne_of_lt earlier same

namespace Simulation

variable {β : Type}

def Joined (s : Simulation β) (i j : Nat) : Prop := (i, j) ∈ s.springs ∨ (j, i) ∈ s.springs

theorem add_spring_joined (s : Simulation β) (a b i j : Nat) :
    (s.addSpring a b).Joined i j ↔ s.Joined i j ∨ (i, j) = (a, b) ∨ (j, i) = (a, b) := by
  unfold addSpring
  split
  next known =>
    constructor
    · exact Or.inl
    · intro either
      rcases either with joined | same | same
      · exact joined
      · obtain ⟨rfl, rfl⟩ := Prod.mk.inj same
        exact known
      · obtain ⟨rfl, rfl⟩ := Prod.mk.inj same
        exact known.symm
  next =>
    simp only [Joined, List.mem_cons]
    tauto

def addSprings (pairs : List (Nat × Nat)) (s : Simulation β) : Simulation β :=
  pairs.foldl (fun s (i, j) => s.addSpring i j) s

theorem add_springs_joined (pairs : List (Nat × Nat)) (s : Simulation β) (i j : Nat) :
    (addSprings pairs s).Joined i j ↔ s.Joined i j ∨ (i, j) ∈ pairs ∨ (j, i) ∈ pairs := by
  induction pairs generalizing s with
  | nil => simp [addSprings]
  | cons pair rest ih =>
      have first := add_spring_joined s pair.1 pair.2 i j
      rw [addSprings, List.foldl_cons, ← addSprings, ih, first, List.mem_cons, List.mem_cons]
      tauto

theorem add_springs_bodies (pairs : List (Nat × Nat)) (s : Simulation β) : (addSprings pairs s).bodies = s.bodies := by
  induction pairs generalizing s with
  | nil => rfl
  | cons pair rest ih =>
      rw [addSprings, List.foldl_cons, ← addSprings, ih]
      dsimp only [addSpring]
      split <;> rfl

end Simulation

namespace Layout

def joint? (ids : List String) (l : Link) : Option (Nat × Nat) :=
  match ids.idxOf? l.source, ids.idxOf? l.destination with
  | some i, some j => some (i, j)
  | _, _ => none

theorem joint_iff (ids : List String) (distinct : ids.Nodup) (l : Link) (i j : Nat) :
    joint? ids l = some (i, j) ↔ ids[i]? = some l.source ∧ ids[j]? = some l.destination := by
  rw [← place_iff ids distinct, ← place_iff ids distinct]
  unfold joint?
  split
  next here there => simp [here, there]
  next missing =>
    refine ⟨nofun, ?_⟩
    intro ⟨here, there⟩
    exact absurd there (missing i j here)

theorem joint_some (ids : List String) (l : Link) :
    (joint? ids l).isSome = true ↔ l.source ∈ ids ∧ l.destination ∈ ids := by
  rw [← List.isSome_idxOf?, ← List.isSome_idxOf?]
  unfold joint?
  split
  next here there => simp [here, there]
  next missing =>
    refine ⟨nofun, ?_⟩
    intro ⟨here, there⟩
    exact absurd (Option.some_get there).symm (missing _ _ (Option.some_get here).symm)

theorem mem_joints (ids : List String) (distinct : ids.Nodup) (links : LinkTable) (i j : Nat) :
    (i, j) ∈ joints ids links ↔ ∃ l ∈ links.toList, l.visible = true ∧ l.isLoop = false ∧
      ids[i]? = some l.source ∧ ids[j]? = some l.destination := by
  have spelled : joints ids links = (links.shown.filter fun l => !l.isLoop).filterMap (joint? ids) := rfl
  simp only [spelled, LinkTable.shown, List.mem_filterMap, List.mem_filter, Bool.not_eq_true', joint_iff ids distinct,
    and_assoc]

theorem joints_count (ids : List String) (links : LinkTable) : (joints ids links).length =
    links.toList.countP fun l => l.visible && !l.isLoop && decide (l.source ∈ ids) && decide (l.destination ∈ ids) := by
  have spelled : joints ids links = (links.shown.filter fun l => !l.isLoop).filterMap (joint? ids) := rfl
  rw [spelled, LinkTable.shown, List.length_filterMap_eq_countP, List.countP_filter, List.countP_filter]
  refine List.countP_congr ?_
  intro l _
  simp only [joint_some, Bool.and_eq_true, decide_eq_true_eq]
  tauto

variable {α ε σ : Type} [Coordinate α]

structure Snapshot [Surface σ α ε] (given : LayoutSettings α) (nodes : NodeTable ε) (links : LinkTable) (surface : σ)
    (run : Run α ε) : Prop where
  settings : run.settings = given
  members : ∀ id element, (id, element) ∈ run.members ↔
    ∃ node, nodes[id]? = some node ∧ node.visible = true ∧ node.element = element
  inOrder : run.members.Pairwise fun a b => octets a.1 < octets b.1
  springs : run.springs = links.toList.countP fun l =>
    l.visible && !l.isLoop && nodes.isVisible l.source && nodes.isVisible l.destination
  -- Links in both directions pull as one.
  joined : ∀ i j, run.simulation.Joined i j ↔ ∃ l ∈ links.toList, l.visible = true ∧ l.isLoop = false ∧
    ((run.members.map Prod.fst)[i]? = some l.source ∧ (run.members.map Prod.fst)[j]? = some l.destination ∨
      (run.members.map Prod.fst)[j]? = some l.source ∧ (run.members.map Prod.fst)[i]? = some l.destination)
  bodies : run.simulation.bodies.size = run.members.length
  body : ∀ (i : Nat) (id : String) (element : ε), run.members[i]? = some (id, element) →
    run.simulation.bodies[i]? = some (startBody given.mass (Surface.offset surface element) (jitter i))

variable [Surface σ α ε]

def startBodies (given : LayoutSettings α) (nodes : NodeTable ε) (surface : σ) : List (Body (Coordinate.Single α)) :=
  nodes.shown.zipIdx.map fun ((_, node), i) => startBody given.mass (Surface.offset surface node.element) (jitter i)

theorem run_simulation (engine : Engine α) (nodes : NodeTable ε) (links : LinkTable) (surface : σ) :
    (engine.run nodes links surface).1.simulation = Simulation.addSprings (joints (nodes.shown.map Prod.fst) links)
      ⟨engine.settings.forces, (startBodies engine.settings nodes surface).toArray, []⟩ := rfl

theorem run_ids (engine : Engine α) (nodes : NodeTable ε) (links : LinkTable) (surface : σ) :
    (engine.run nodes links surface).1.members.map Prod.fst = nodes.shown.map Prod.fst := by
  simp [Engine.run, Function.comp_def]

theorem run_bodies (engine : Engine α) (nodes : NodeTable ε) (links : LinkTable) (surface : σ) :
    (engine.run nodes links surface).1.simulation.bodies = (startBodies engine.settings nodes surface).toArray := by
  rw [run_simulation, Simulation.add_springs_bodies]

theorem run_snapshot (engine : Engine α) (nodes : NodeTable ε) (links : LinkTable) (surface : σ) :
    Snapshot engine.settings nodes links surface (engine.run nodes links surface).1 := by
  have distinct := NodeTable.shown_ids nodes
  refine ⟨rfl, ?_, ?_, ?_, ?_, ?_, ?_⟩
  · intro id element
    simp only [Engine.run, List.mem_map, Prod.exists, NodeTable.mem_shown, Prod.mk.injEq]
    constructor
    · intro ⟨_, node, ⟨found, visible⟩, rfl, same⟩
      exact ⟨node, found, visible, same⟩
    · intro ⟨node, found, visible, same⟩
      exact ⟨id, node, ⟨found, visible⟩, rfl, same⟩
  · exact List.pairwise_map.mpr (NodeTable.shown_in_order nodes)
  · refine (joints_count (nodes.shown.map Prod.fst) links).trans (List.countP_congr ?_)
    intro l _
    simp only [Bool.and_eq_true, decide_eq_true_eq, NodeTable.visible_iff_shown]
  · intro i j
    have bare : ¬ Simulation.Joined
        ⟨engine.settings.forces, (startBodies engine.settings nodes surface).toArray, []⟩ i j := by
      simp [Simulation.Joined]
    rw [run_simulation, Simulation.add_springs_joined, or_iff_right bare, mem_joints _ distinct, mem_joints _ distinct,
      run_ids, ← exists_or]
    refine exists_congr ?_
    intro l
    tauto
  · rw [run_bodies]
    simp [startBodies, Engine.run]
  · intro i id element found
    simp only [Engine.run, List.getElem?_map, Option.map_eq_some_iff, Prod.mk.injEq] at found
    obtain ⟨⟨_, node⟩, shown, _, rfl⟩ := found
    simp [run_bodies, startBodies, shown]

end Layout

end GraphBrowser
