import GraphBrowser.Demo
import GraphBrowser.Proofs.DataSet
import GraphBrowser.Proofs.ExactNumbers
import Std.Data.String.ToNat

set_option autoImplicit false

namespace GraphBrowser

def LinkTriple.touches (l : LinkTriple) (id : String) : Bool := l.source == id || l.destination == id

theorem LinkTriple.touches_iff (l : LinkTriple) (id : String) :
    l.touches id = true ↔ id = l.source ∨ id = l.destination := by
  rw [touches, Bool.or_eq_true, beq_iff_eq, beq_iff_eq, eq_comm, @eq_comm _ l.destination]

theorem Collection.of_list_found (fragments : List Fragment) (distinct : (fragments.map Fragment.id).Nodup)
    (f : Fragment) (member : f ∈ fragments) : (ofList fragments)[f.id]? = some f := by
  induction fragments using List.reverseRecOn with
  | nil => cases member
  | append_singleton fragments last ih =>
      rw [List.map_append, List.nodup_append] at distinct
      rw [of_list_snoc, IdMap.insert_get]
      rcases List.mem_append.mp member with earlier | here
      · have apart : f.id ≠ last.id :=
          distinct.2.2 f.id (List.mem_map_of_mem earlier) last.id List.mem_cons_self
        rw [if_neg apart]
        exact ih distinct.1 earlier
      · rw [List.mem_singleton.mp here, if_pos rfl]

namespace Demo

theorem id_inj (i j : Nat) : id i = id j ↔ i = j := by
  rw [id, id, String.append_right_inj]
  exact Nat.repr_inj

theorem draw_below (seed : UInt64) : (Scatter.advance seed).toNat < 233280 := by
  rw [Scatter.advance, UInt64.toNat_mod]
  exact Nat.mod_lt _ (by decide)

-- The links of a fragment are those that touch its node. Different numbers are different identifiers.
theorem fragment_links (edges : List Edge) (i : Nat) :
    (fragment edges i).links = (edges.map Edge.triple).filter (·.touches (id i)) := by
  have same (a : Nat) : (id a == id i) = (a == i) := by
    rw [Bool.eq_iff_iff, beq_iff_eq, beq_iff_eq, id_inj]
  rw [List.filter_map]
  refine congrArg (List.map Edge.triple) (List.filter_congr ?_)
  intro e _
  simp only [Function.comp, Edge.triple, LinkTriple.touches, same]

variable (α : Type) [Coordinate α]

-- What is drawn, as a fraction, times a whole number stays below that number when it is truncated.
def Truncates : Prop :=
  ∀ r m : Nat, r < 233280 → 1 ≤ m → Coordinate.truncate ((Scalar.ofInt r / 233280.0 : α) * Scalar.ofInt m) < m

theorem collection_get (n : Nat) (key : String) (f : Fragment) :
    (collection α n)[key]? = some f ↔ ∃ i, i < n ∧ key = id i ∧ f = fragment (edges α n) i := by
  constructor
  · intro found
    obtain ⟨member, same⟩ := Collection.of_list_get _ key f found
    obtain ⟨i, listed, rfl⟩ := List.mem_map.mp member
    exact ⟨i, List.mem_range.mp listed, same.symm, rfl⟩
  · rintro ⟨i, below, rfl, rfl⟩
    refine Collection.of_list_found _ ?_ (fragment (edges α n) i) (List.mem_map_of_mem (List.mem_range.mpr below))
    rw [List.map_map]
    refine List.nodup_range.map ?_
    intro a b same
    exact (id_inj a b).mp same

variable {α}

theorem pick_below (truncates : Truncates α) (seed bound : Nat) (positive : 1 ≤ bound) : pick α seed bound < bound :=
  truncates _ bound (draw_below (UInt64.ofNat seed)) positive

example : (edges Float 5).map (fun e => (e.source, e.destination)) = [(1, 0), (2, 0), (3, 1), (4, 1), (3, 4)] := by
  decide +kernel

theorem edge_within (truncates : Truncates α) (n : Nat) (e : Edge) (member : e ∈ edges α n) :
    e.source < n ∧ e.destination < n := by
  rcases List.mem_append.mp member with inTree | across
  · obtain ⟨i, listed, rfl⟩ := List.mem_map.mp inTree
    rw [List.mem_range'_1] at listed
    have below : i < n := by omega
    exact ⟨below, (pick_below truncates i i listed.1).trans below⟩
  · obtain ⟨i, listed, rfl⟩ := List.mem_map.mp across
    have below := List.mem_range.mp (List.mem_filter.mp listed).1
    exact ⟨below, pick_below truncates (i * 31) n (by omega)⟩

theorem tree_edge (n i : Nat) (positive : 1 ≤ i) (below : i < n) :
    ⟨i, pick α i i, relation i⟩ ∈ edges α n := by
  refine List.mem_append_left _ (List.mem_map.mpr ⟨i, ?_, rfl⟩)
  rw [List.mem_range'_1]
  omega

theorem edge_listed (edges : List Edge) (e : Edge) (member : e ∈ edges) (i : Nat)
    (touches : e.source = i ∨ e.destination = i) : e.triple ∈ (fragment edges i).links := by
  rw [fragment_links, List.mem_filter, LinkTriple.touches_iff]
  refine ⟨List.mem_map_of_mem member, ?_⟩
  rw [Edge.triple, id_inj, id_inj]
  exact touches.imp Eq.symm Eq.symm

structure Whole (data : Collection) (n : Nat) : Prop where
  keys : ∀ key, key ∈ data ↔ ∃ i, i < n ∧ key = id i
  named : ∀ (key : String) f, data[key]? = some f → f.id = key
  closed : ∀ (key : String) f, data[key]? = some f → ∀ l ∈ f.links,
    ∃ i j, i < n ∧ j < n ∧ l.source = id i ∧ l.destination = id j
  -- Whoever lists a link, it is listed by both its ends, equally often, and by nobody else.
  symmetric : ∀ (key other : String) f g, data[key]? = some f → data[other]? = some g → ∀ l ∈ f.links,
    g.links.count l = if other = l.source ∨ other = l.destination then f.links.count l else 0
  downward : ∀ i, 1 ≤ i → i < n → ∃ j name f g, j < i ∧ data[id i]? = some f ∧ data[id j]? = some g ∧
    ⟨id i, id j, name⟩ ∈ f.links ∧ ⟨id i, id j, name⟩ ∈ g.links
  connected : ∀ i, i < n → data.Reaches Set.univ (id 0) (id i)

theorem link_counted (edges : List Edge) (i : Nat) (l : LinkTriple) :
    (fragment edges i).links.count l =
      if id i = l.source ∨ id i = l.destination then (edges.map Edge.triple).count l else 0 := by
  rw [fragment_links]
  split
  next touches => exact List.count_filter ((LinkTriple.touches_iff l (id i)).mpr touches)
  next apart =>
    rw [List.count_eq_zero, List.mem_filter, LinkTriple.touches_iff]
    exact fun listed => apart listed.2

theorem link_downward (truncates : Truncates α) (n i : Nat) (positive : 1 ≤ i) (below : i < n) :
    ∃ j name f g, j < i ∧ (collection α n)[id i]? = some f ∧ (collection α n)[id j]? = some g ∧
      ⟨id i, id j, name⟩ ∈ f.links ∧ ⟨id i, id j, name⟩ ∈ g.links := by
  have member := tree_edge (α := α) n i positive below
  have before := pick_below truncates i i positive
  exact ⟨pick α i i, relation i, _, _, before, (collection_get α n _ _).mpr ⟨i, below, rfl, rfl⟩,
    (collection_get α n _ _).mpr ⟨pick α i i, before.trans below, rfl, rfl⟩,
    edge_listed _ _ member i (.inl rfl), edge_listed _ _ member (pick α i i) (.inr rfl)⟩

-- A node is reached through the node before it to which it has a link.
theorem first_reaches (truncates : Truncates α) (n i : Nat) (below : i < n) :
    (collection α n).Reaches Set.univ (id 0) (id i) := by
  induction i using Nat.strong_induction_on with
  | h i ih =>
      rcases Nat.eq_zero_or_pos i with rfl | positive
      · exact .refl
      · obtain ⟨j, name, f, g, before, found, _, listed, _⟩ := link_downward truncates n i positive below
        have links : (collection α n).Links (id i) (id j) := ⟨id i, f, found, _, listed, rfl, rfl⟩
        have present : id i ∈ collection α n := (IdMap.mem_iff _ _).mpr ⟨f, found⟩
        exact (ih j before (before.trans below)).tail ⟨⟨.inbound, Set.mem_univ _, links⟩, present⟩

theorem demo_data_is_whole (truncates : Truncates α) (n : Nat) : Whole (collection α n) n := by
  refine ⟨?_, ?_, ?_, ?_, link_downward truncates n, first_reaches truncates n⟩
  · intro key
    simp only [IdMap.mem_iff, collection_get]
    constructor
    · rintro ⟨_, i, below, same, _⟩
      exact ⟨i, below, same⟩
    · rintro ⟨i, below, same⟩
      exact ⟨_, i, below, same, rfl⟩
  · intro key f found
    obtain ⟨i, _, rfl, rfl⟩ := (collection_get α n key f).mp found
    rfl
  · intro key f found l listed
    obtain ⟨i, _, rfl, rfl⟩ := (collection_get α n key f).mp found
    rw [fragment_links, List.mem_filter, List.mem_map] at listed
    obtain ⟨⟨e, member, rfl⟩, _⟩ := listed
    obtain ⟨source, destination⟩ := edge_within truncates n e member
    exact ⟨e.source, e.destination, source, destination, rfl, rfl⟩
  · intro key other f g foundF foundG l listed
    obtain ⟨i, _, rfl, rfl⟩ := (collection_get α n key f).mp foundF
    obtain ⟨j, _, rfl, rfl⟩ := (collection_get α n other g).mp foundG
    have here : id i = l.source ∨ id i = l.destination := by
      rw [fragment_links, List.mem_filter, LinkTriple.touches_iff] at listed
      exact listed.2
    rw [link_counted, link_counted, if_pos here]

theorem exact_truncates : Truncates ℝ := by
  intro r m below positive
  have small : (r : ℝ) / 233280 < 1 := by
    rw [div_lt_one (by norm_num)]
    exact_mod_cast below
  have positiveReal : (0 : ℝ) < m := by exact_mod_cast positive
  have product : (r : ℝ) / 233280 * m < m := mul_lt_of_lt_one_left positiveReal small
  have floored : ⌊(r : ℝ) / 233280 * m⌋₊ < m := (Nat.floor_lt' (by omega)).mpr product
  show ⌊((r : ℤ) : ℝ) / 233280.0 * ((m : ℤ) : ℝ)⌋₊ < m
  norm_num at floored ⊢
  exact floored

theorem demo_data_is_whole_in_exact_numbers : Truncates ℝ ∧ Whole (collection ℝ 30) 30 :=
  ⟨exact_truncates, demo_data_is_whole exact_truncates 30⟩

end Demo

end GraphBrowser
