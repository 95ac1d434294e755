import GraphBrowser.Fragment
import GraphBrowser.Json.Error

set_option autoImplicit false

namespace GraphBrowser

-- A record is an object with its fields in any order, or an array of them in the order of declaration.
inductive Form where
  | object
  | array
deriving DecidableEq

structure FragmentDraft where
  form : Form
  node : Option NodeSummary
  links : Option (List LinkTriple)

structure NodeDraft where
  form : Form
  id : Option String
  label : Option (Option String)
  up : FragmentDraft

-- The list of links, with those read so far, the last first.
structure LinksDraft where
  read : List LinkTriple
  up : FragmentDraft

structure LinkDraft where
  form : Form
  source : Option String
  destination : Option String
  name : Option String
  up : LinksDraft

inductive Draft where
  | fragment (d : FragmentDraft)
  | node (d : NodeDraft)
  | links (d : LinksDraft)
  | link (d : LinkDraft)

inductive Spot where
  | fragment
  | node (up : FragmentDraft)
  | links (up : FragmentDraft)
  | link (up : LinksDraft)
  | id (up : NodeDraft)
  | label (up : NodeDraft)
  | source (up : LinkDraft)
  | destination (up : LinkDraft)
  | name (up : LinkDraft)
  | ignored (up : Draft)

namespace Spot

def wanted : Spot → Wanted
  | .fragment => .fragment
  | .node _ => .node
  | .links _ => .links
  | .link _ => .link
  | _ => .text

def enter (spot : Spot) (form : Form) : Except DecodeError Draft :=
  match spot, form with
  | .fragment, form => .ok (.fragment ⟨form, none, none⟩)
  | .node up, form => .ok (.node ⟨form, none, none, up⟩)
  | .link up, form => .ok (.link ⟨form, none, none, none, up⟩)
  | .links up, .array => .ok (.links ⟨[], up⟩)
  | spot, .array => .error (.wrongType .sequence spot.wanted)
  | spot, .object => .error (.wrongType .map spot.wanted)

def putText (spot : Spot) (s : String) : Except DecodeError Draft :=
  match spot with
  | .id up => .ok (.node { up with id := some s })
  | .label up => .ok (.node { up with label := some (some s) })
  | .source up => .ok (.link { up with source := some s })
  | .destination up => .ok (.link { up with destination := some s })
  | .name up => .ok (.link { up with name := some s })
  | spot => .error (.wrongType (.text s) spot.wanted)

-- Only a label may be null, which is as good as having none.
def putNull (spot : Spot) : Except DecodeError Draft :=
  match spot with
  | .label up => .ok (.node { up with label := some none })
  | spot => .error (.wrongType .null spot.wanted)

end Spot

namespace Draft

def form : Draft → Form
  | .fragment d => d.form
  | .node d => d.form
  | .links _ => .array
  | .link d => d.form

def unread {β : Type} (present : Option β) (spot : Spot) : Option Spot :=
  if present.isSome then none else some spot

-- What the value of a key in an object is read for; nothing if its field was read before.
def key? (d : Draft) (k : String) : Option Spot :=
  match d with
  | .fragment f =>
      if k = "node" then unread f.node (.node f)
      else if k = "links" then unread f.links (.links f)
      else some (.ignored d)
  | .node n =>
      if k = "id" then unread n.id (.id n)
      else if k = "label" then unread n.label (.label n)
      else some (.ignored d)
  | .link l =>
      if k = "source" then unread l.source (.source l)
      else if k = "destination" then unread l.destination (.destination l)
      else if k = "name" then unread l.name (.name l)
      else some (.ignored d)
  | .links _ => some (.ignored d)

def element? : Draft → Option Spot
  | .fragment f =>
      if f.node.isNone then some (.node f)
      else if f.links.isNone then some (.links f)
      else none
  | .node n =>
      if n.id.isNone then some (.id n) else if n.label.isNone then some (.label n) else none
  | .link l =>
      if l.source.isNone then some (.source l)
      else if l.destination.isNone then some (.destination l)
      else if l.name.isNone then some (.name l)
      else none
  | .links d => some (.link d)

def require {β : Type} (field : Option β) (form : Form) (key : String) (position : Nat)
    (record : Wanted) (fields : Nat) : Except DecodeError β :=
  match field, form with
  | some value, _ => .ok value
  | none, .object => .error (.missingField key)
  | none, .array => .error (.tooFewFields position record fields)

def close : Draft → Except DecodeError (Draft ⊕ Fragment)
  | .fragment f => do
      let node ← require f.node f.form "node" 0 .fragment 2
      return .inr { node, links := f.links.getD [] }
  | .node n => do
      let id ← require n.id n.form "id" 0 .node 2
      return .inl (.fragment { n.up with node := some { id, label := n.label.getD none } })
  | .links d => return .inl (.fragment { d.up with links := some d.read.reverse })
  | .link l => do
      let source ← require l.source l.form "source" 0 .link 3
      let destination ← require l.destination l.form "destination" 1 .link 3
      let name ← require l.name l.form "name" 2 .link 3
      return .inl (.links { l.up with read := { source, destination, name } :: l.up.read })

end Draft

end GraphBrowser
