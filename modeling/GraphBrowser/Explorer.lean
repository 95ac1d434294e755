import GraphBrowser.Layout
import GraphBrowser.Scatter

set_option autoImplicit false

namespace GraphBrowser

inductive Direction where
  | outbound
  | inbound
deriving DecidableEq, Repr

def Direction.ends : Direction → String → String → String × String
  | .outbound, anchor, neighbor => (anchor, neighbor)
  | .inbound, anchor, neighbor => (neighbor, anchor)

-- Stands for one fetch. Copies of a ticket stand for the same fetch.
structure Ticket where
  node : String
  serial : Nat
deriving DecidableEq, Repr

structure Asker where
  anchor : String
  direction : Direction
deriving DecidableEq, Repr

structure Pending where
  serial : Nat
  askers : List Asker
deriving DecidableEq, Repr

inductive Outcome where
  -- The node was attached, and that many connectors were drawn.
  | attached (connected : Nat)
  | failed
  -- The ticket stands for no fetch under way.
  | stale
deriving DecidableEq, Repr

structure Explorer (α σ ε : Type) [Coordinate α] where
  nodes : NodeTable ε
  links : LinkTable
  surface : σ
  layout : Layout.Engine α
  scatter : Scatter α
  pending : IdMap Pending
  failures : IdMap Failure
  issued : Nat

namespace Explorer

variable {α σ ε : Type} [Coordinate α]

def new (surface : σ) (settings : Settings α) : Explorer α σ ε where
  nodes := ∅
  links := .empty
  surface
  layout := .new settings.layout
  scatter := ⟨settings.seed, settings.placementRadius⟩
  pending := ∅
  failures := ∅
  issued := 0

variable [DecidableEq ε] [Surface σ α ε]

def reveal (x : Explorer α σ ε) (id : String) : Explorer α σ ε :=
  let (_, nodes, surface) := x.nodes.reveal id x.surface
  { x with nodes, surface }

def hide (x : Explorer α σ ε) (id : String) : Explorer α σ ε :=
  let (_, nodes, surface) := x.nodes.hide id x.surface
  { x with nodes, surface }

def moveTo (x : Explorer α σ ε) (element : ε) (offset : Point α) : Explorer α σ ε :=
  { x with surface := Surface.repaint element (Surface.setOffset element offset x.surface) }

def provide (x : Explorer α σ ε) (node : NodeSummary) : ε × Explorer α σ ε :=
  match x.nodes[node.id]? with
  | some known => (known.element, x)
  | none =>
      let (element, surface) := Surface.create node x.surface
      (element, { x with surface, nodes := x.nodes.register node.id element node.label })

def learn (x : Explorer α σ ε) (triples : List LinkTriple) : Explorer α σ ε :=
  { x with
    links := triples.foldl (fun t l => (t.register l.source l.destination l.name).2) x.links }

def wire (x : Explorer α σ ε) (id : String) (element : ε) : Explorer α σ ε :=
  if x.nodes[id]?.any (!·.wired) then
    { x with surface := Surface.bind id element x.surface, nodes := x.nodes.markWired id }
  else x

def attach (x : Explorer α σ ε) (fragment : Fragment) : ε × Explorer α σ ε :=
  let (element, x) := x.provide fragment.node
  (element, (x.learn fragment.links).wire fragment.id element)

def openRoot (x : Explorer α σ ε) (fragment : Fragment) : ε × Explorer α σ ε :=
  let (element, x) := x.attach fragment
  let x := x.reveal fragment.id
  (element, x.moveTo element (Surface.size x.surface).center)

def join (x : Explorer α σ ε) (source destination : String) : Bool × Explorer α σ ε :=
  match x.nodes[source]?, x.nodes[destination]? with
  | some s, some d =>
      if s.visible && d.visible then
        match x.links.connect source destination with
        | (false, _) => (false, x)
        | (true, links) =>
            let label := ((links.get? source destination).map Link.label).getD ""
            (true, { x with
              links, surface := Surface.connect s.element d.element label x.surface })
      else (false, x)
  | _, _ => (false, x)

def joinNeighbor (x : Explorer α σ ε) (asker : Asker) (neighbor : String) :
    Bool × Explorer α σ ε :=
  let (source, destination) := asker.direction.ends asker.anchor neighbor
  x.join source destination

-- Asks for a node that is not known: starts a fetch, or waits for the one under way. What was held
-- against the node is forgotten.
def request (x : Explorer α σ ε) (asker : Asker) (neighbor : String) :
    Option Ticket × Explorer α σ ε :=
  let x := { x with failures := x.failures.erase neighbor }
  match x.pending[neighbor]? with
  | some fetch =>
      if asker ∈ fetch.askers then (none, x)
      else
        (none, { x with
          pending := x.pending.insert neighbor { fetch with askers := fetch.askers ++ [asker] } })
  | none =>
      let serial := x.issued + 1
      (some ⟨neighbor, serial⟩, { x with
        pending := x.pending.insert neighbor ⟨serial, [asker]⟩, issued := serial })

def reach (x : Explorer α σ ε) (asker : Asker) (neighbor : String) :
    Option Ticket × Explorer α σ ε :=
  match x.nodes[neighbor]? with
  | none => x.request asker neighbor
  | some node =>
      let x := if node.visible then x else x.reveal neighbor
      (none, (x.joinNeighbor asker neighbor).2)

def reachAll (x : Explorer α σ ε) (asker : Asker) : List String → List Ticket × Explorer α σ ε
  | [] => ([], x)
  | neighbor :: rest =>
      let (ticket, x) := x.reach asker neighbor
      let (tickets, x) := x.reachAll asker rest
      (ticket.toList ++ tickets, x)

def neighbors (x : Explorer α σ ε) (id : String) : Direction → List String
  | .outbound => (x.links.outbound id).map Link.destination
  | .inbound => (x.links.inbound id).map Link.source

def expand (x : Explorer α σ ε) (id : String) (direction : Direction) :
    List Ticket × Explorer α σ ε :=
  if x.nodes.isVisible id then x.reachAll ⟨id, direction⟩ (x.neighbors id direction) else ([], x)

def anchor? (x : Explorer α σ ε) (askers : List Asker) : Option ε :=
  askers.findSome? fun a => (x.nodes[a.anchor]?.filter Node.visible).map Node.element

def joinAll (x : Explorer α σ ε) (neighbor : String) : List Asker → Nat × Explorer α σ ε
  | [] => (0, x)
  | asker :: rest =>
      let (drawn, x) := x.joinNeighbor asker neighbor
      let (count, x) := x.joinAll neighbor rest
      (drawn.toNat + count, x)

def scatterAround (x : Explorer α σ ε) (element anchor : ε) : Explorer α σ ε :=
  let (offset, scatter) := x.scatter.drop (Surface.offset x.surface anchor)
  { x with scatter }.moveTo element offset

-- Takes in a fetched node. If every asker was closed meanwhile, a new node stays hidden and a known one
-- stays as it is.
def receive (x : Explorer α σ ε) (fragment : Fragment) (askers : List Asker) :
    Outcome × Explorer α σ ε :=
  let fresh := x.nodes[fragment.id]?.isNone
  let (element, x) := x.attach fragment
  match x.anchor? askers with
  | none => (.attached 0, if fresh then x.hide fragment.id else x)
  | some anchor =>
      let x := if fresh then x.scatterAround element anchor else x
      let (connected, x) := (x.reveal fragment.id).joinAll fragment.id askers
      (.attached connected, x)

def fail (x : Explorer α σ ε) (id : String) (failure : Failure) : Outcome × Explorer α σ ε :=
  (.failed, { x with failures := x.failures.insert id failure })

def redeem (x : Explorer α σ ε) (ticket : Ticket) (result : FetchResult) :
    Outcome × Explorer α σ ε :=
  match x.pending[ticket.node]? with
  | none => (.stale, x)
  | some fetch =>
      if fetch.serial = ticket.serial then
        let x := { x with pending := x.pending.erase ticket.node }
        match result with
        | .error cause => x.fail ticket.node (.fetch ticket.node cause)
        | .ok fragment =>
            if fragment.id = ticket.node then x.receive fragment fetch.askers
            else x.fail ticket.node (.mismatch ticket.node fragment.id)
      else (.stale, x)

def collapse (x : Explorer α σ ε) (id : String) : Bool × Explorer α σ ε :=
  match x.nodes[id]? with
  | none => (false, x)
  | some node =>
      let x := { x with
        links := (x.links.disconnectAll id).2, surface := Surface.disconnect node.element x.surface }
      (true, x.hide id)

def runLayout (x : Explorer α σ ε) : Layout.Run α ε × Explorer α σ ε :=
  let (run, layout) := x.layout.run x.nodes x.links x.surface
  (run, { x with layout })

def cancelLayout (x : Explorer α σ ε) : Explorer α σ ε := { x with layout := x.layout.cancel }

def applyPlacements (x : Explorer α σ ε) : List (Layout.Placement α ε) → Nat × Explorer α σ ε
  | [] => (0, x)
  | p :: rest =>
      if x.nodes.isVisible p.id then
        let (count, x) := (x.moveTo p.element p.offset).applyPlacements rest
        (count + 1, x)
      else x.applyPlacements rest

def applyFrame (x : Explorer α σ ε) (frame : Layout.Frame α ε) : Nat × Explorer α σ ε :=
  x.applyPlacements frame.placements

def failureMessages (x : Explorer α σ ε) : List String :=
  (x.failures.values.map Failure.message).mergeSort fun a b => decide (a ≤ b)

end Explorer

end GraphBrowser
