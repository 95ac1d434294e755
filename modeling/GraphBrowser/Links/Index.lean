import GraphBrowser.IdMap
import GraphBrowser.Links

set_option autoImplicit false

namespace GraphBrowser

-- The positions of links, by the node at one end and then by the node at the other.
abbrev EndIndex := IdMap (IdMap Nat)

namespace EndIndex

def entries (index : EndIndex) (near : String) : IdMap Nat := index[near]?.getD ∅

def position? (index : EndIndex) (near far : String) : Option Nat := (index.entries near)[far]?

def file (index : EndIndex) (near far : String) (position : Nat) : EndIndex :=
  index.insert near ((index.entries near).insert far position)

end EndIndex

structure IndexedLinks where
  links : List Link
  forward : EndIndex
  reverse : EndIndex

namespace IndexedLinks

def empty : IndexedLinks := ⟨[], ∅, ∅⟩

def get? (x : IndexedLinks) (source destination : String) : Option Link :=
  (x.forward.position? source destination).bind (x.links[·]?)

def register (x : IndexedLinks) (source destination name : String) : Bool × IndexedLinks :=
  match x.forward.position? source destination with
  | some i =>
      if x.links[i]?.any fun l => decide (name ∈ l.names) then (false, x)
      else (true, { x with links := x.links.modify i (·.addName name) })
  | none =>
      (true, {
        links := x.links ++ [⟨source, destination, [name], false⟩]
        forward := x.forward.file source destination x.links.length
        reverse := x.reverse.file destination source x.links.length })

def connect (x : IndexedLinks) (source destination : String) : Bool × IndexedLinks :=
  match x.forward.position? source destination with
  | none => (false, x)
  | some i =>
      if x.links[i]?.any Link.visible then (false, x)
      else (true, { x with links := x.links.modify i ({ · with visible := true }) })

-- Makes the links at these positions invisible, one after the other, and counts those that were visible. A
-- position may come twice.
def close : List Nat → List Link → Nat × List Link
  | [], links => (0, links)
  | i :: rest, links =>
      if links[i]?.any Link.visible then
        let (count, links) := close rest (links.modify i ({ · with visible := false }))
        (count + 1, links)
      else close rest links

def incident (x : IndexedLinks) (id : String) : List Nat :=
  ((x.forward.entries id).toList ++ (x.reverse.entries id).toList).map Prod.snd

def disconnectAll (x : IndexedLinks) (id : String) : Nat × IndexedLinks :=
  let (count, links) := close (x.incident id) x.links
  (count, { x with links })

def neighbors (x : IndexedLinks) (entries : IdMap Nat) : List (String × Link) :=
  entries.toList.filterMap fun (far, i) => x.links[i]?.map (far, ·)

def outbound (x : IndexedLinks) (id : String) : List (String × Link) := x.neighbors (x.forward.entries id)

def inbound (x : IndexedLinks) (id : String) : List (String × Link) := x.neighbors (x.reverse.entries id)

def shown (x : IndexedLinks) : List Link := x.links.filter Link.visible

def size (x : IndexedLinks) : Nat := x.links.length

end IndexedLinks

end GraphBrowser
