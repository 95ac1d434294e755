import GraphBrowser.Collection
import GraphBrowser.Scatter

set_option autoImplicit false

namespace GraphBrowser.Demo

structure Edge where
  source : Nat
  destination : Nat
  name : String
deriving DecidableEq, Repr

def id (i : Nat) : String := "urn:demo:" ++ toString i

def relations : List String := ["partOf", "derivedFrom", "seeAlso", "replaces"]

def relation (i : Nat) : String := relations.getD (i % relations.length) ""

variable (α : Type) [Coordinate α]

def random (seed : Nat) : α := Scatter.fraction (Scatter.advance (UInt64.ofNat seed))

def pick (seed bound : Nat) : Nat := Coordinate.truncate (random α seed * Scalar.ofInt bound)

def tree (n : Nat) : List Edge :=
  (List.range' 1 (n - 1)).map fun i => ⟨i, pick α i i, relation i⟩

def crossLinks (n : Nat) : List Edge :=
  ((List.range n).filter (· % 7 == 3)).map fun i => ⟨i, pick α (i * 31) n, "seeAlso"⟩

def edges (n : Nat) : List Edge := tree α n ++ crossLinks α n

def Edge.triple (e : Edge) : LinkTriple := ⟨id e.source, id e.destination, e.name⟩

def fragment (edges : List Edge) (i : Nat) : Fragment where
  node := { id := id i, label := some ("Dataset " ++ toString i) }
  links := (edges.filter fun e => e.source == i || e.destination == i).map Edge.triple

def collection (n : Nat) : Collection := .ofList ((List.range n).map (fragment (edges α n)))

end GraphBrowser.Demo
