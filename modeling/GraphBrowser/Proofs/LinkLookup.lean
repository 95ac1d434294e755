import GraphBrowser.Links
import Mathlib.Data.List.Nodup

set_option autoImplicit false

namespace GraphBrowser.LinkTable

theorem get_some_iff (t : LinkTable) (s d : String) (l : Link) :
    t.get? s d = some l ↔ l ∈ t.toList ∧ l.ends = (s, d) := by
  constructor
  · intro found
    exact ⟨List.mem_of_find?_eq_some found, by simpa using List.find?_some found⟩
  · rintro ⟨member, same⟩
    cases found : t.get? s d with
    | none =>
        have absent := not_mem_of_get?_eq_none found
        exact absurd (List.mem_map.mpr ⟨l, member, same⟩) absent
    | some other =>
        have otherMember : other ∈ t.toList := List.mem_of_find?_eq_some found
        have otherSame : other.ends = (s, d) := by simpa using List.find?_some found
        -- The table holds no pair twice, so two links with the same ends are one.
        have equal := List.inj_on_of_nodup_map t.distinct otherMember member (otherSame.trans same.symm)
        rw [equal]

theorem get_of_mem (t : LinkTable) (l : Link) (member : l ∈ t.toList) :
    t.get? l.source l.destination = some l :=
  (get_some_iff t l.source l.destination l).mpr ⟨member, rfl⟩

theorem get_ends (t : LinkTable) (s d : String) (l : Link) (found : t.get? s d = some l) :
    l.source = s ∧ l.destination = d := by
  have same := ((get_some_iff t s d l).mp found).2
  exact Prod.mk.inj same

-- A table is told by its pairs in their order and by what is looked up for each.
theorem table_ext (t u : LinkTable) (order : t.toList.map Link.ends = u.toList.map Link.ends)
    (same : ∀ s d, t.get? s d = u.get? s d) : t = u := by
  have read (v : LinkTable) : (v.toList.map Link.ends).filterMap (fun pair => v.get? pair.1 pair.2) = v.toList := by
    rw [List.filterMap_map]
    exact (List.filterMap_congr fun l member => get_of_mem v l member).trans List.filterMap_some
  have listed : t.toList = u.toList := by
    rw [← read t, ← read u, order]
    simp only [same]
  cases t
  cases u
  congr

theorem visible_iff (t : LinkTable) (s d : String) :
    t.isVisible s d = true ↔ ∃ l, t.get? s d = some l ∧ l.visible = true := by
  cases found : t.get? s d <;> simp [isVisible, found]

theorem visible_of_get (t : LinkTable) (s d : String) (l : Link) (found : t.get? s d = some l) :
    t.isVisible s d = l.visible := by
  simp [isVisible, found]

theorem map_get (t : LinkTable) (f : Link → Link) (keeps : ∀ l, (f l).ends = l.ends) (s d : String) :
    (t.map f keeps).get? s d = (t.get? s d).map f := by
  simp only [get?, map, List.find?_map]
  congr 2
  funext l
  simp only [Function.comp, keeps]

theorem update_get (t : LinkTable) (source destination : String) (f : Link → Link)
    (keeps : ∀ l, (f l).ends = l.ends) (s d : String) :
    (t.update source destination f keeps).get? s d =
      if s = source ∧ d = destination then (t.get? s d).map f else t.get? s d := by
  rw [update, map_get]
  cases found : t.get? s d with
  | none => simp
  | some l =>
      obtain ⟨rfl, rfl⟩ := get_ends t s d l found
      by_cases here : l.source = source ∧ l.destination = destination
      · simp [Link.ends, here]
      · simp [Link.ends, here]

theorem add_get (t : LinkTable) (l : Link) (fresh : t.get? l.source l.destination = none) (s d : String) :
    (t.add l fresh).get? s d = if s = l.source ∧ d = l.destination then some l else t.get? s d := by
  have appended : (t.add l fresh).get? s d = (t.get? s d).or ([l].find? (·.ends == (s, d))) := by
    simp only [get?, add, List.find?_append]
  rw [appended]
  by_cases here : s = l.source ∧ d = l.destination
  · obtain ⟨rfl, rfl⟩ := here
    simp [fresh, Link.ends]
  · have elsewhere : ¬ (l.source = s ∧ l.destination = d) := fun same => here ⟨same.1.symm, same.2.symm⟩
    simp [Link.ends, here, elsewhere]

def named (name : String) (source destination : String) : Option Link → Link
  | none => ⟨source, destination, [name], false⟩
  | some l => if name ∈ l.names then l else l.addName name

theorem register_get (t : LinkTable) (source destination name : String) (s d : String) :
    (t.register source destination name).2.get? s d =
      if s = source ∧ d = destination then some (named name source destination (t.get? source destination))
      else t.get? s d := by
  unfold register
  split
  next absent => rw [add_get, absent, named]
  next l found =>
    rw [found, named]
    split
    next =>
      by_cases here : s = source ∧ d = destination
      · simp [here, found]
      · simp [here]
    next =>
      refine (update_get t source destination (·.addName name) (fun _ => rfl) s d).trans ?_
      by_cases here : s = source ∧ d = destination
      · simp [here, found]
      · simp [here]

theorem named_visible (name source destination : String) (old : Option Link) :
    (named name source destination old).visible = (old.map Link.visible).getD false := by
  cases old with
  | none => rfl
  | some l =>
      by_cases known : name ∈ l.names
      · simp [named, known]
      · simp [named, known, Link.addName]

theorem register_visible (t : LinkTable) (source destination name : String) (s d : String) :
    (t.register source destination name).2.isVisible s d = t.isVisible s d := by
  rw [isVisible, register_get]
  by_cases here : s = source ∧ d = destination
  · obtain ⟨rfl, rfl⟩ := here
    simp [named_visible, isVisible]
  · simp [here, isVisible]

theorem connect_fires (t : LinkTable) (source destination : String) :
    (t.connect source destination).1 = true ↔
      ∃ l, t.get? source destination = some l ∧ l.visible = false := by
  unfold connect
  split
  next absent => simp [absent]
  next l found => cases visible : l.visible <;> simp [found, visible]

theorem connect_get (t : LinkTable) (source destination : String) (s d : String) :
    (t.connect source destination).2.get? s d =
      if s = source ∧ d = destination then (t.get? s d).map ({ · with visible := true }) else t.get? s d := by
  unfold connect
  split
  next absent =>
    by_cases here : s = source ∧ d = destination
    · simp [here, absent]
    · simp [here]
  next l found =>
    split
    next visible =>
      -- Nothing is written, and writing `true` over `true` would change nothing either.
      by_cases here : s = source ∧ d = destination
      · have same : ({ l with visible := true } : Link) = l := by rw [← visible]
        simp [here, found, same]
      · simp [here]
    next => exact update_get t source destination ({ · with visible := true }) (fun _ => rfl) s d

theorem connect_visible (t : LinkTable) (source destination : String) (s d : String) :
    (t.connect source destination).2.isVisible s d =
      if s = source ∧ d = destination then (t.get? s d).isSome else t.isVisible s d := by
  rw [isVisible, connect_get]
  by_cases here : s = source ∧ d = destination
  · cases found : t.get? source destination <;> simp [here, found]
  · simp [here, isVisible]

theorem disconnect_get (t : LinkTable) (id s d : String) :
    (t.disconnectAll id).2.get? s d =
      (t.get? s d).map fun l => if s = id ∨ d = id then { l with visible := false } else l := by
  rw [disconnectAll, map_get]
  cases found : t.get? s d with
  | none => rfl
  | some l =>
      obtain ⟨rfl, rfl⟩ := get_ends t s d l found
      simp [Link.touches]

theorem disconnect_visible (t : LinkTable) (id s d : String) :
    (t.disconnectAll id).2.isVisible s d = (t.isVisible s d && !(s == id || d == id)) := by
  rw [isVisible, disconnect_get, isVisible]
  cases found : t.get? s d with
  | none => rfl
  | some l =>
      by_cases source : s = id
      · simp [source]
      · by_cases destination : d = id <;> simp [source, destination]

theorem far_distinct (t : LinkTable) (near far : Link → String) (id : String)
    (whole : ∀ a b, near a = near b → far a = far b → a.ends = b.ends) :
    ((t.toList.filter (near · == id)).map far).Nodup := by
  have distinct : ((t.toList.filter (near · == id)).map Link.ends).Nodup :=
    t.distinct.sublist (List.filter_sublist.map Link.ends)
  refine List.Nodup.map_on ?_ distinct.of_map
  intro a inA b inB same
  have nearA : near a = id := by simpa using (List.mem_filter.mp inA).2
  have nearB : near b = id := by simpa using (List.mem_filter.mp inB).2
  exact List.inj_on_of_nodup_map distinct inA inB (whole a b (nearA.trans nearB.symm) same)

theorem outbound_distinct (t : LinkTable) (id : String) : ((t.outbound id).map Link.destination).Nodup := by
  have sorted := (List.mergeSort_perm (t.toList.filter (·.source == id))
    fun a b => decide (a.destination ≤ b.destination)).map Link.destination
  refine sorted.nodup_iff.mpr (far_distinct t Link.source Link.destination id ?_)
  intro a b source destination
  rw [Link.ends, source, destination, Link.ends]

theorem inbound_distinct (t : LinkTable) (id : String) : ((t.inbound id).map Link.source).Nodup := by
  have sorted := (List.mergeSort_perm (t.toList.filter (·.destination == id))
    fun a b => decide (a.source ≤ b.source)).map Link.source
  refine sorted.nodup_iff.mpr (far_distinct t Link.destination Link.source id ?_)
  intro a b destination source
  rw [Link.ends, source, destination, Link.ends]

end GraphBrowser.LinkTable
