import GraphBrowser.Proofs.Session

set_option autoImplicit false

namespace GraphBrowser

-- Surfaces that are driven alike. Moves may differ, since what they depend on is read off the surfaces.
structure Twins (σ τ : Type) {α ε : Type} [Surface σ α ε] [Surface τ α ε] where
  alike : σ → τ → Prop
  create : ∀ node s t, alike s t →
    (Surface.create node t).1 = (Surface.create node s).1 ∧ alike (Surface.create node s).2 (Surface.create node t).2
  bind : ∀ id element s t, alike s t → alike (Surface.bind id element s) (Surface.bind id element t)
  reveal : ∀ element s t, alike s t → alike (Surface.reveal element s) (Surface.reveal element t)
  hide : ∀ element s t, alike s t → alike (Surface.hide element s) (Surface.hide element t)
  connect : ∀ source target label s t, alike s t →
    alike (Surface.connect source target label s) (Surface.connect source target label t)
  disconnect : ∀ element s t, alike s t → alike (Surface.disconnect element s) (Surface.disconnect element t)
  setOffset : ∀ element p q s t, alike s t → alike (Surface.setOffset element p s) (Surface.setOffset element q t)
  repaint : ∀ element s t, alike s t → alike (Surface.repaint element s) (Surface.repaint element t)

namespace Explorer

variable {α σ τ ε : Type} [Coordinate α]

-- Nothing but the surfaces can tell the two apart.
structure Agree (x : Explorer α σ ε) (y : Explorer α τ ε) : Prop where
  nodes : y.nodes = x.nodes
  links : y.links = x.links
  layout : y.layout = x.layout
  scatter : y.scatter = x.scatter
  pending : y.pending = x.pending
  failures : y.failures = x.failures
  issued : y.issued = x.issued

variable [Surface σ α ε] [Surface τ α ε] (twins : Twins σ τ)

structure Paired (x : Explorer α σ ε) (y : Explorer α τ ε) : Prop extends Agree x y where
  surface : twins.alike x.surface y.surface

structure Matched {β : Type} (p : β × Explorer α σ ε) (q : β × Explorer α τ ε) : Prop where
  answer : q.1 = p.1
  paired : Paired twins p.2 q.2

variable {twins}

theorem reveal_paired (x : Explorer α σ ε) (y : Explorer α τ ε) (paired : Paired twins x y) (id : String) :
    Paired twins (x.reveal id) (y.reveal id) := by
  simp only [reveal, NodeTable.reveal, paired.nodes]
  cases x.nodes.changing? id true with
  | none => exact { paired with nodes := rfl }
  | some element => exact { paired with nodes := rfl, surface := twins.reveal element _ _ paired.surface }

theorem hide_paired (x : Explorer α σ ε) (y : Explorer α τ ε) (paired : Paired twins x y) (id : String) :
    Paired twins (x.hide id) (y.hide id) := by
  simp only [hide, NodeTable.hide, paired.nodes]
  cases x.nodes.changing? id false with
  | none => exact { paired with nodes := rfl }
  | some element => exact { paired with nodes := rfl, surface := twins.hide element _ _ paired.surface }

theorem move_paired (x : Explorer α σ ε) (y : Explorer α τ ε) (paired : Paired twins x y) (element : ε)
    (p q : Point α) : Paired twins (x.moveTo element p) (y.moveTo element q) :=
  { paired with surface := twins.repaint element _ _ (twins.setOffset element p q _ _ paired.surface) }

theorem learn_paired (x : Explorer α σ ε) (y : Explorer α τ ε) (paired : Paired twins x y)
    (triples : List LinkTriple) : Paired twins (x.learn triples) (y.learn triples) :=
  { paired with links := by simp only [learn, paired.links] }

theorem wire_paired (x : Explorer α σ ε) (y : Explorer α τ ε) (paired : Paired twins x y) (id : String) (element : ε) :
    Paired twins (x.wire id element) (y.wire id element) := by
  simp only [wire, paired.nodes]
  split
  next => exact { paired with nodes := rfl, surface := twins.bind id element _ _ paired.surface }
  next => exact paired

theorem join_matched (x : Explorer α σ ε) (y : Explorer α τ ε) (paired : Paired twins x y) (s d : String) :
    Matched twins (x.join s d) (y.join s d) := by
  simp only [join, paired.nodes, paired.links]
  cases x.nodes[s]? with
  | none => exact ⟨rfl, paired⟩
  | some source =>
      cases x.nodes[d]? with
      | none => exact ⟨rfl, paired⟩
      | some destination =>
          by_cases shown : (source.visible && destination.visible) = true
          · simp only [if_pos shown]
            rcases x.links.connect s d with ⟨_ | _, links⟩
            · exact ⟨rfl, paired⟩
            · exact ⟨rfl, { paired with
                nodes := rfl, links := rfl, surface := twins.connect _ _ _ _ _ paired.surface }⟩
          · simp only [if_neg shown]
            exact ⟨rfl, paired⟩

theorem request_matched (x : Explorer α σ ε) (y : Explorer α τ ε) (paired : Paired twins x y) (asker : Asker)
    (neighbor : String) : Matched twins (x.request asker neighbor) (y.request asker neighbor) := by
  have failures : y.failures.erase neighbor = x.failures.erase neighbor := by rw [paired.failures]
  simp only [request, paired.pending, paired.issued]
  cases x.pending[neighbor]? with
  | none => exact ⟨rfl, { paired with pending := rfl, failures, issued := rfl }⟩
  | some fetch =>
      by_cases waits : asker ∈ fetch.askers
      · simp only [if_pos waits]
        exact ⟨rfl, { paired with pending := rfl, failures, issued := rfl }⟩
      · simp only [if_neg waits]
        exact ⟨rfl, { paired with pending := rfl, failures, issued := rfl }⟩

theorem reach_matched (x : Explorer α σ ε) (y : Explorer α τ ε) (paired : Paired twins x y) (asker : Asker)
    (neighbor : String) : Matched twins (x.reach asker neighbor) (y.reach asker neighbor) := by
  simp only [reach, paired.nodes]
  cases x.nodes[neighbor]? with
  | none => exact request_matched x y paired asker neighbor
  | some node =>
      refine ⟨rfl, (join_matched _ _ ?_ _ _).paired⟩
      cases node.visible with
      | true => exact paired
      | false => exact reveal_paired x y paired neighbor

theorem reach_all_matched (asker : Asker) (neighbors : List String) (x : Explorer α σ ε) (y : Explorer α τ ε)
    (paired : Paired twins x y) : Matched twins (x.reachAll asker neighbors) (y.reachAll asker neighbors) := by
  induction neighbors generalizing x y with
  | nil => exact ⟨rfl, paired⟩
  | cons neighbor rest ih =>
      have reached := reach_matched x y paired asker neighbor
      have others := ih _ _ reached.paired
      refine ⟨?_, others.paired⟩
      simp only [reachAll, reached.answer, others.answer]

theorem expand_matched (x : Explorer α σ ε) (y : Explorer α τ ε) (paired : Paired twins x y) (id : String)
    (direction : Direction) : Matched twins (x.expand id direction) (y.expand id direction) := by
  have neighbors : y.neighbors id direction = x.neighbors id direction := by
    cases direction <;> simp only [Explorer.neighbors, paired.links]
  simp only [expand, paired.nodes, neighbors]
  split
  next => exact reach_all_matched _ _ x y paired
  next => exact ⟨rfl, paired⟩

theorem join_all_matched (neighbor : String) (askers : List Asker) (x : Explorer α σ ε) (y : Explorer α τ ε)
    (paired : Paired twins x y) : Matched twins (x.joinAll neighbor askers) (y.joinAll neighbor askers) := by
  induction askers generalizing x y with
  | nil => exact ⟨rfl, paired⟩
  | cons asker rest ih =>
      have joined : Matched twins (x.joinNeighbor asker neighbor) (y.joinNeighbor asker neighbor) :=
        join_matched x y paired _ _
      have others := ih _ _ joined.paired
      refine ⟨?_, others.paired⟩
      simp only [joinAll, joined.answer, others.answer]

-- Both draw from the generator once. Where the anchors are decides only where the element goes.
theorem scatter_paired (x : Explorer α σ ε) (y : Explorer α τ ε) (paired : Paired twins x y) (element anchor : ε) :
    Paired twins (x.scatterAround element anchor) (y.scatterAround element anchor) := by
  have drawn : Paired twins { x with scatter := x.scatter.next } { y with scatter := y.scatter.next } := by
    refine ⟨⟨paired.nodes, paired.links, paired.layout, ?_, paired.pending, paired.failures, paired.issued⟩,
      paired.surface⟩
    rw [paired.scatter]
  exact move_paired _ _ drawn element _ _

theorem collapse_matched (x : Explorer α σ ε) (y : Explorer α τ ε) (paired : Paired twins x y) (id : String) :
    Matched twins (x.collapse id) (y.collapse id) := by
  simp only [collapse, paired.nodes]
  cases x.nodes[id]? with
  | none => exact ⟨rfl, paired⟩
  | some node =>
      refine ⟨rfl, hide_paired _ _ ?_ id⟩
      exact { paired with
        nodes := rfl
        links := by rw [paired.links]
        surface := twins.disconnect node.element _ _ paired.surface }

theorem fail_matched (x : Explorer α σ ε) (y : Explorer α τ ε) (paired : Paired twins x y) (id : String)
    (failure : Failure) : Matched twins (x.fail id failure) (y.fail id failure) :=
  ⟨rfl, { paired with failures := by simp only [fail, paired.failures] }⟩

variable [DecidableEq ε]

theorem provide_matched (x : Explorer α σ ε) (y : Explorer α τ ε) (paired : Paired twins x y) (node : NodeSummary) :
    Matched twins (x.provide node) (y.provide node) := by
  simp only [provide, paired.nodes]
  cases x.nodes[node.id]? with
  | some known => exact ⟨rfl, paired⟩
  | none =>
      obtain ⟨same, alike⟩ := twins.create node _ _ paired.surface
      exact ⟨same, { paired with nodes := by simp only [same], surface := alike }⟩

theorem attach_matched (x : Explorer α σ ε) (y : Explorer α τ ε) (paired : Paired twins x y) (fragment : Fragment) :
    Matched twins (x.attach fragment) (y.attach fragment) := by
  have provided := provide_matched x y paired fragment.node
  refine ⟨provided.answer, ?_⟩
  simp only [attach, provided.answer]
  exact wire_paired _ _ (learn_paired _ _ provided.paired fragment.links) fragment.id _

theorem open_root_matched (x : Explorer α σ ε) (y : Explorer α τ ε) (paired : Paired twins x y) (fragment : Fragment) :
    Matched twins (x.openRoot fragment) (y.openRoot fragment) := by
  have attached := attach_matched x y paired fragment
  refine ⟨attached.answer, ?_⟩
  simp only [openRoot, attached.answer]
  exact move_paired _ _ (reveal_paired _ _ attached.paired fragment.id) _ _ _

theorem receive_matched (x : Explorer α σ ε) (y : Explorer α τ ε) (paired : Paired twins x y) (fragment : Fragment)
    (askers : List Asker) : Matched twins (x.receive fragment askers) (y.receive fragment askers) := by
  have attached := attach_matched x y paired fragment
  have anchors : (y.attach fragment).2.anchor? askers = (x.attach fragment).2.anchor? askers := by
    simp only [anchor?, attached.paired.nodes]
  simp only [receive, paired.nodes, attached.answer, anchors]
  cases (x.attach fragment).2.anchor? askers with
  | none =>
      refine ⟨rfl, ?_⟩
      cases x.nodes[fragment.id]? with
      | none => exact hide_paired _ _ attached.paired fragment.id
      | some node => exact attached.paired
  | some anchor =>
      have placed : Paired twins
          (if x.nodes[fragment.id]?.isNone then
            (x.attach fragment).2.scatterAround (x.attach fragment).1 anchor else (x.attach fragment).2)
          (if x.nodes[fragment.id]?.isNone then
            (y.attach fragment).2.scatterAround (x.attach fragment).1 anchor else (y.attach fragment).2) := by
        split
        next => exact scatter_paired _ _ attached.paired _ anchor
        next => exact attached.paired
      have joined := join_all_matched fragment.id askers _ _ (reveal_paired _ _ placed fragment.id)
      exact ⟨congrArg Outcome.attached joined.answer, joined.paired⟩

theorem redeem_matched (x : Explorer α σ ε) (y : Explorer α τ ε) (paired : Paired twins x y) (ticket : Ticket)
    (result : FetchResult) : Matched twins (x.redeem ticket result) (y.redeem ticket result) := by
  simp only [redeem, paired.pending]
  cases x.pending[ticket.node]? with
  | none => exact ⟨rfl, paired⟩
  | some fetch =>
      have erased : Paired twins { x with pending := x.pending.erase ticket.node }
          { y with pending := x.pending.erase ticket.node } := { paired with pending := rfl }
      by_cases live : fetch.serial = ticket.serial
      · simp only [if_pos live]
        cases result with
        | error cause => exact fail_matched _ _ erased ticket.node _
        | ok fragment =>
            by_cases matching : fragment.id = ticket.node
            · simp only [if_pos matching]
              exact receive_matched _ _ erased fragment fetch.askers
            · simp only [if_neg matching]
              exact fail_matched _ _ erased ticket.node _
      · simp only [if_neg live]
        exact ⟨rfl, paired⟩

end Explorer

end GraphBrowser
