import GraphBrowser.Fragment
import GraphBrowser.Proofs.Grammar

set_option autoImplicit false

namespace GraphBrowser

open Json

structure Field where
  key : String
  -- The field may be left out.
  Optional : Prop
  Spells : List Char → Prop

namespace Json

inductive Record (fields : List Field) : List Char → Prop where
  | object (members : List (String × List Char)) (texts : List (List Char)) (inner : List Char)
      (once : ∀ f ∈ fields, (members.map Prod.fst).count f.key ≤ 1)
      (complete : ∀ f ∈ fields, f.Optional ∨ f.key ∈ members.map Prod.fst)
      (known : ∀ m ∈ members, ∀ f ∈ fields, m.1 = f.key → f.Spells m.2)
      (unknown : ∀ m ∈ members, m.1 ∉ fields.map Field.key → Wellformed m.2)
      (written : List.Forall₂ (fun m text => ∃ key, Spells m.1 key ∧ Member key m.2 text) members texts)
      (listed : Listed texts inner) : Record fields ('{' :: inner ++ ['}'])
  | array (given missing : List Field) (values : List (List Char)) (inner : List Char)
      (split : fields = given ++ missing) (written : List.Forall₂ Field.Spells given values)
      (optional : ∀ f ∈ missing, f.Optional) (listed : Listed values inner) :
      Record fields ('[' :: inner ++ [']'])

def null : List Char := ['n', 'u', 'l', 'l']

end Json

namespace LinkTriple

def fields (l : LinkTriple) : List Field :=
  [⟨"source", False, Json.Spells l.source⟩, ⟨"destination", False, Json.Spells l.destination⟩,
    ⟨"name", False, Json.Spells l.name⟩]

end LinkTriple

namespace NodeSummary

def SpellsLabel : Option String → List Char → Prop
  | none, text => text = null
  | some s, text => Json.Spells s text

def fields (n : NodeSummary) : List Field :=
  [⟨"id", False, Json.Spells n.id⟩, ⟨"label", n.label = none, SpellsLabel n.label⟩]

end NodeSummary

namespace Fragment

def SpellsLinks (links : List LinkTriple) (text : List Char) : Prop :=
  ∃ records inner, List.Forall₂ (fun l record => Record l.fields record) links records ∧ Listed records inner ∧
    text = '[' :: inner ++ [']']

def fields (f : Fragment) : List Field :=
  [⟨"node", False, Record f.node.fields⟩, ⟨"links", f.links = [], SpellsLinks f.links⟩]

def Spells (f : Fragment) (text : String) : Prop := ∃ record, Record f.fields record ∧ Padded record text.toList

end Fragment

end GraphBrowser
