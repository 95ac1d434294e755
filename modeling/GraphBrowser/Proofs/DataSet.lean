import GraphBrowser.Collection
import GraphBrowser.Proofs.NodeLookup
import GraphBrowser.Explorer
import Mathlib.Data.List.Induction
import Mathlib.Data.Set.Basic
import Mathlib.Logic.Relation

set_option autoImplicit false

namespace GraphBrowser

def Fragment.Lists (f : Fragment) (s d : String) : Prop := ∃ l ∈ f.links, l.source = s ∧ l.destination = d

namespace Collection

def Links (data : Collection) (s d : String) : Prop :=
  ∃ (id : String) (f : Fragment), data[id]? = some f ∧ f.Lists s d

-- A link that is listed anywhere is listed by the fragments of its ends, as far as they have one.
def Consistent (data : Collection) : Prop :=
  ∀ s d, data.Links s d → ∀ f, data[s]? = some f ∨ data[d]? = some f → f.Lists s d

def Adjoins (data : Collection) (directions : Set Direction) (a b : String) : Prop :=
  ∃ direction ∈ directions, data.Links (direction.ends a b).1 (direction.ends a b).2

def Reaches (data : Collection) (directions : Set Direction) : String → String → Prop :=
  Relation.ReflTransGen fun a b => data.Adjoins directions a b ∧ b ∈ data

theorem reaches_listed (data : Collection) (directions : Set Direction) (root id : String) (listed : root ∈ data)
    (reaches : data.Reaches directions root id) : id ∈ data := by
  cases reaches with
  | refl => exact listed
  | tail _ last => exact last.2

theorem of_list_snoc (fragments : List Fragment) (f : Fragment) :
    ofList (fragments ++ [f]) = (ofList fragments).insert f.id f := by
  rw [ofList, List.foldl_append]
  rfl

theorem of_list_get (fragments : List Fragment) (id : String) (f : Fragment)
    (found : (ofList fragments)[id]? = some f) : f ∈ fragments ∧ f.id = id := by
  induction fragments using List.reverseRecOn with
  | nil => simp [ofList] at found
  | append_singleton fragments last ih =>
      rw [of_list_snoc, IdMap.insert_get] at found
      by_cases here : id = last.id
      · rw [if_pos here] at found
        obtain rfl := Option.some.inj found
        exact ⟨List.mem_append_right _ List.mem_cons_self, here.symm⟩
      · rw [if_neg here] at found
        obtain ⟨member, same⟩ := ih found
        exact ⟨List.mem_append_left _ member, same⟩

theorem of_list_consistent (fragments : List Fragment)
    (checked : ∀ f ∈ fragments, ∀ l ∈ f.links, ∀ g ∈ fragments, g.id = l.source ∨ g.id = l.destination →
      ∃ m ∈ g.links, m.source = l.source ∧ m.destination = l.destination) : Consistent (ofList fragments) := by
  intro s d ⟨id, f, found, l, listed, source, destination⟩ g either
  have member := (of_list_get fragments id f found).1
  have ends : g ∈ fragments ∧ (g.id = l.source ∨ g.id = l.destination) := by
    cases either with
    | inl atSource =>
        obtain ⟨listedToo, same⟩ := of_list_get fragments s g atSource
        exact ⟨listedToo, .inl (same.trans source.symm)⟩
    | inr atDestination =>
        obtain ⟨listedToo, same⟩ := of_list_get fragments d g atDestination
        exact ⟨listedToo, .inr (same.trans destination.symm)⟩
  obtain ⟨m, listedToo, sameSource, sameDestination⟩ := checked f member l listed g ends.1 ends.2
  exact ⟨m, listedToo, sameSource.trans source, sameDestination.trans destination⟩

end Collection

end GraphBrowser
