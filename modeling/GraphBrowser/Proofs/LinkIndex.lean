import GraphBrowser.Links.Index
import GraphBrowser.Proofs.LinkHistory
import GraphBrowser.Proofs.NodeLookup
import GraphBrowser.Proofs.Session

set_option autoImplicit false

namespace GraphBrowser

theorem Direction.ends_eq (direction : Direction) (n f n' f' : String) :
    direction.ends n f = direction.ends n' f' ↔ n = n' ∧ f = f' := by
  cases direction with
  | outbound => exact Prod.mk_inj
  | inbound => exact Prod.mk_inj.trans and_comm

def Direction.far : Direction → Link → String
  | .outbound => Link.destination
  | .inbound => Link.source

theorem Direction.ends_far (direction : Direction) (n f : String) (l : Link) (ends : l.ends = direction.ends n f) :
    direction.far l = f := by
  cases direction with
  | outbound => exact (Prod.mk_inj.mp ends).2
  | inbound => exact (Prod.mk_inj.mp ends).1

namespace EndIndex

-- The index leads from the ends of every link to its position, and from no others.
def Exact (index : EndIndex) (direction : Direction) (pairs : List (String × String)) : Prop :=
  ∀ n f i, index.position? n f = some i ↔ pairs[i]? = some (direction.ends n f)

theorem file_position (index : EndIndex) (n f : String) (position : Nat) (n' f' : String) :
    (index.file n f position).position? n' f' =
      if n' = n ∧ f' = f then some position else index.position? n' f' := by
  rw [position?, entries, file, IdMap.insert_get]
  by_cases here : n' = n
  · subst here
    simp [IdMap.insert_get, position?]
  · simp [here, position?, entries]

theorem empty_exact (direction : Direction) : Exact ∅ direction [] := by
  intro n f i
  simp [position?, entries]

theorem file_exact (index : EndIndex) (direction : Direction) (pairs : List (String × String))
    (exactly : Exact index direction pairs) (n f : String) (fresh : direction.ends n f ∉ pairs) :
    Exact (index.file n f pairs.length) direction (pairs ++ [direction.ends n f]) := by
  intro n' f' i
  rw [file_position, snoc_get, Direction.ends_eq]
  by_cases here : n' = n ∧ f' = f
  · obtain ⟨rfl, rfl⟩ := here
    rw [if_pos ⟨rfl, rfl⟩, Option.some.injEq]
    constructor
    · intro last
      exact .inr ⟨last.symm, rfl, rfl⟩
    · rintro (old | ⟨last, _⟩)
      · exact absurd (List.mem_of_getElem? old) fresh
      · exact last.symm
  · rw [if_neg here, exactly]
    constructor
    · exact Or.inl
    · rintro (old | ⟨_, sameNear, sameFar⟩)
      · exact old
      · exact absurd ⟨sameNear.symm, sameFar.symm⟩ here

theorem mem_entries (index : EndIndex) (direction : Direction) (pairs : List (String × String))
    (exactly : Exact index direction pairs) (n f : String) (i : Nat) :
    (f, i) ∈ (index.entries n).toList ↔ pairs[i]? = some (direction.ends n f) := by
  rw [Std.ExtTreeMap.mem_toList_iff_getElem?_eq_some, ← exactly]
  rfl

theorem entries_ascending (index : EndIndex) (n : String) :
    (index.entries n).toList.Pairwise fun a b => a.1 < b.1 := by
  refine Std.ExtTreeMap.ordered_keys_toList.imp ?_
  intro a b less
  exact compare_lt_iff_lt.mp less

end EndIndex

theorem LinkTable.register_known (t : LinkTable) (s d name : String) (l : Link) (known : t.get? s d = some l) :
    t.register s d name =
      if name ∈ l.names then (false, t) else (true, t.update s d (·.addName name) fun _ => rfl) := by
  unfold register
  split
  next absent =>
    rw [known] at absent
    cases absent
  next other found =>
    rw [known, Option.some.injEq] at found
    rw [found]

namespace IndexedLinks

structure Indexes (x : IndexedLinks) (t : LinkTable) : Prop where
  links : x.links = t.toList
  forward : x.forward.Exact .outbound (t.toList.map Link.ends)
  reverse : x.reverse.Exact .inbound (t.toList.map Link.ends)

theorem indexes_of_ends (x y : IndexedLinks) (t u : LinkTable) (indexes : Indexes x t) (links : y.links = u.toList)
    (forward : y.forward = x.forward) (reverse : y.reverse = x.reverse)
    (ends : u.toList.map Link.ends = t.toList.map Link.ends) : Indexes y u := by
  refine ⟨links, ?_, ?_⟩
  · rw [forward, ends]
    exact indexes.forward
  · rw [reverse, ends]
    exact indexes.reverse

section

variable (x : IndexedLinks) (t : LinkTable) (indexes : Indexes x t)

include indexes

theorem position_found (s d : String) (i : Nat) (found : x.forward.position? s d = some i) :
    ∃ l, x.links[i]? = some l ∧ t.get? s d = some l := by
  have pair := (indexes.forward s d i).mp found
  rw [List.getElem?_map, Option.map_eq_some_iff] at pair
  obtain ⟨l, here, ends⟩ := pair
  exact ⟨l, indexes.links ▸ here, (LinkTable.get_some_iff t s d l).mpr ⟨List.mem_of_getElem? here, ends⟩⟩

theorem position_absent (s d : String) (absent : x.forward.position? s d = none) : t.get? s d = none := by
  cases found : t.get? s d with
  | none => rfl
  | some l =>
      obtain ⟨member, ends⟩ := (LinkTable.get_some_iff t s d l).mp found
      obtain ⟨i, here⟩ := List.mem_iff_getElem?.mp member
      have pair : (t.toList.map Link.ends)[i]? = some (Direction.outbound.ends s d) := by
        rw [List.getElem?_map, here, Option.map_some, ends]
        rfl
      rw [(indexes.forward s d i).mpr pair] at absent
      cases absent

theorem indexed_get (s d : String) : x.get? s d = t.get? s d := by
  cases found : x.forward.position? s d with
  | none => rw [get?, found, position_absent x t indexes s d found, Option.bind_none]
  | some i =>
      obtain ⟨l, here, known⟩ := position_found x t indexes s d i found
      rw [get?, found, Option.bind_some, here, known]

theorem modify_update (s d : String) (i : Nat) (found : x.forward.position? s d = some i) (f : Link → Link)
    (keeps : ∀ l, (f l).ends = l.ends) : x.links.modify i f = (t.update s d f keeps).toList := by
  have here := (indexes.forward s d i).mp found
  have below := (List.getElem?_eq_some_iff.mp here).1
  rw [indexes.links]
  apply List.ext_getElem?
  intro j
  rw [List.getElem?_modify, LinkTable.update, LinkTable.map, List.getElem?_map]
  cases other : t.toList[j]? with
  | none => rfl
  | some l =>
      have otherPair : (t.toList.map Link.ends)[j]? = some l.ends := by rw [List.getElem?_map, other, Option.map_some]
      have same : l.ends = (s, d) ↔ i = j := by
        rw [← List.getElem?_inj below t.distinct, here, otherPair, Option.some.injEq, eq_comm]
        rfl
      simp [same]

theorem modify_indexed (s d : String) (i : Nat) (found : x.forward.position? s d = some i) (f : Link → Link)
    (keeps : ∀ l, (f l).ends = l.ends) : Indexes { x with links := x.links.modify i f } (t.update s d f keeps) :=
  indexes_of_ends x _ t _ indexes (modify_update x t indexes s d i found f keeps) rfl rfl
    (LinkTable.update_ends t s d f keeps)

theorem register_indexed (s d name : String) : (x.register s d name).1 = (t.register s d name).1 ∧
    Indexes (x.register s d name).2 (t.register s d name).2 := by
  cases found : x.forward.position? s d with
  | none =>
      have absent := position_absent x t indexes s d found
      have fresh := LinkTable.not_mem_of_get?_eq_none absent
      have count : x.links.length = (t.toList.map Link.ends).length := by rw [indexes.links, List.length_map]
      simp only [register, found, LinkTable.register]
      split
      next =>
        refine ⟨rfl, ?_, ?_, ?_⟩
        · rw [indexes.links]
          rfl
        · rw [count, LinkTable.add, List.map_append]
          exact EndIndex.file_exact x.forward .outbound _ indexes.forward s d fresh
        · rw [count, LinkTable.add, List.map_append]
          exact EndIndex.file_exact x.reverse .inbound _ indexes.reverse d s fresh
      next l known =>
        rw [absent] at known
        cases known
  | some i =>
      obtain ⟨l, here, known⟩ := position_found x t indexes s d i found
      rw [LinkTable.register_known t s d name l known]
      simp only [register, found, here, Option.any_some, decide_eq_true_eq]
      split
      next => exact ⟨rfl, indexes⟩
      next => exact ⟨rfl, modify_indexed x t indexes s d i found (·.addName name) fun _ => rfl⟩

theorem connect_indexed (s d : String) : (x.connect s d).1 = (t.connect s d).1 ∧
    Indexes (x.connect s d).2 (t.connect s d).2 := by
  cases found : x.forward.position? s d with
  | none =>
      have absent := position_absent x t indexes s d found
      simp only [connect, found, LinkTable.connect, absent]
      exact ⟨trivial, indexes⟩
  | some i =>
      obtain ⟨l, here, known⟩ := position_found x t indexes s d i found
      simp only [connect, found, LinkTable.connect, here, known, Option.any_some]
      split
      next => exact ⟨rfl, indexes⟩
      next => exact ⟨rfl, modify_indexed x t indexes s d i found ({ · with visible := true }) fun _ => rfl⟩

theorem mem_incident (id : String) (i : Nat) :
    i ∈ x.incident id ↔ ∃ l, t.toList[i]? = some l ∧ l.touches id = true := by
  have forward (far : String) := EndIndex.mem_entries x.forward .outbound _ indexes.forward id far i
  have reverse (far : String) := EndIndex.mem_entries x.reverse .inbound _ indexes.reverse id far i
  simp only [incident, List.mem_map, List.mem_append, Prod.exists, exists_eq_right, forward, reverse, Direction.ends,
    List.getElem?_map]
  cases here : t.toList[i]? with
  | none => simp
  | some l => simp [Link.ends, Link.touches, exists_or]

end

theorem close_get (positions : List Nat) (links : List Link) (j : Nat) :
    (close positions links).2[j]? =
      links[j]?.map fun l => if j ∈ positions then { l with visible := false } else l := by
  induction positions generalizing links with
  | nil => simp [close]
  | cons i rest ih =>
      rw [close]
      split
      next visible =>
        rw [ih, List.getElem?_modify]
        cases here : links[j]? with
        | none => rfl
        | some l =>
            by_cases same : i = j
            · simp [same]
            · simp [same, Ne.symm same]
      next unchanged =>
        rw [ih]
        cases here : links[j]? with
        | none => rfl
        | some l =>
            by_cases same : j = i
            · subst same
              have hidden : l.visible = false := by simpa [here] using unchanged
              have idle : ({ l with visible := false } : Link) = l := by rw [← hidden]
              simp [idle]
            · simp [same]

theorem hide_count (links : List Link) (i : Nat) (visible : links[i]?.any Link.visible = true) :
    (links.modify i ({ · with visible := false })).countP Link.visible + 1 = links.countP Link.visible := by
  induction links generalizing i with
  | nil => simp at visible
  | cons l rest ih =>
      cases i with
      | zero =>
          have shown : l.visible = true := by simpa using visible
          simp [shown]
      | succ i =>
          have later := ih i (by simpa using visible)
          rw [List.modify_succ_cons, List.countP_cons, List.countP_cons]
          omega

theorem close_count (positions : List Nat) (links : List Link) :
    (close positions links).1 + (close positions links).2.countP Link.visible = links.countP Link.visible := by
  induction positions generalizing links with
  | nil => simp [close]
  | cons i rest ih =>
      rw [close]
      split
      next visible =>
        have later := ih (links.modify i ({ · with visible := false }))
        have one := hide_count links i visible
        dsimp only
        omega
      next => exact ih links

theorem closing_count (links : List Link) (id : String) :
    (links.countP fun l => l.touches id && l.visible) +
      (links.map fun l => if l.touches id then { l with visible := false } else l).countP Link.visible =
        links.countP Link.visible := by
  rw [List.countP_map]
  induction links with
  | nil => rfl
  | cons l rest ih =>
      rw [List.countP_cons, List.countP_cons, List.countP_cons]
      cases touched : l.touches id <;> cases shown : l.visible <;> simp [touched, shown] <;> omega

theorem disconnect_indexed (x : IndexedLinks) (t : LinkTable) (indexes : Indexes x t) (id : String) :
    (x.disconnectAll id).1 = (t.disconnectAll id).1 ∧ Indexes (x.disconnectAll id).2 (t.disconnectAll id).2 := by
  have closed : (close (x.incident id) x.links).2 = (t.disconnectAll id).2.toList := by
    apply List.ext_getElem?
    intro j
    rw [close_get, indexes.links, LinkTable.disconnectAll, LinkTable.map, List.getElem?_map]
    cases here : t.toList[j]? with
    | none => rfl
    | some l => simp [mem_incident x t indexes id j, here]
  constructor
  · have counted := close_count (x.incident id) x.links
    have counting := closing_count t.toList id
    have after : (t.disconnectAll id).2.toList =
      t.toList.map fun l => if l.touches id then { l with visible := false } else l := rfl
    rw [closed, after, indexes.links, ← counting] at counted
    rw [disconnectAll, indexes.links]
    exact Nat.add_right_cancel counted
  · exact indexes_of_ends x _ t _ indexes closed rfl rfl (LinkTable.change_ends t (.disconnectAll id))

-- A list is told by its members when their keys ascend.
theorem ascending_unique {β : Type} (first second : List (String × β))
    (firstSorted : first.Pairwise fun a b => a.1 < b.1) (secondSorted : second.Pairwise fun a b => a.1 < b.1)
    (same : ∀ e, e ∈ first ↔ e ∈ second) : first = second := by
  have distinct (entries : List (String × β)) (sorted : entries.Pairwise fun a b => a.1 < b.1) : entries.Nodup := by
    refine sorted.imp ?_
    intro a b less equal
    rw [equal] at less
    exact lt_irrefl _ less
  refine List.Perm.eq_of_pairwise ?_ firstSorted secondSorted ?_
  · intro a b _ _ less greater
    exact absurd greater (lt_asymm less)
  · exact (List.perm_ext_iff_of_nodup (distinct first firstSorted) (distinct second secondSorted)).mpr same

theorem neighbors_mem (x : IndexedLinks) (index : EndIndex) (direction : Direction)
    (exactly : index.Exact direction (x.links.map Link.ends)) (id f : String) (l : Link) :
    (f, l) ∈ x.neighbors (index.entries id) ↔ l ∈ x.links ∧ l.ends = direction.ends id f := by
  have entry (f : String) (i : Nat) := EndIndex.mem_entries index direction _ exactly id f i
  rw [neighbors, List.mem_filterMap]
  constructor
  · intro ⟨(f', i), member, same⟩
    obtain ⟨l', here, pair⟩ := Option.map_eq_some_iff.mp same
    obtain ⟨rfl, rfl⟩ := Prod.mk_inj.mp pair
    have ends := (entry f' i).mp member
    rw [List.getElem?_map, here, Option.map_some, Option.some.injEq] at ends
    exact ⟨List.mem_of_getElem? here, ends⟩
  · intro ⟨member, ends⟩
    obtain ⟨i, here⟩ := List.mem_iff_getElem?.mp member
    refine ⟨(f, i), (entry f i).mpr ?_, by simp [here]⟩
    rw [List.getElem?_map, here, Option.map_some, ends]

theorem neighbors_listed (x : IndexedLinks) (index : EndIndex) (direction : Direction)
    (exactly : index.Exact direction (x.links.map Link.ends)) (id : String) (listed : List Link)
    (sorted : listed.Pairwise fun a b => direction.far a < direction.far b)
    (members : ∀ l, l ∈ listed ↔ l ∈ x.links ∧ l.ends = direction.ends id (direction.far l)) :
    x.neighbors (index.entries id) = listed.map fun l => (direction.far l, l) := by
  apply ascending_unique
  · refine (EndIndex.entries_ascending index id).filterMap _ ?_
    intro a b less first found second found'
    obtain ⟨_, _, rfl⟩ := Option.map_eq_some_iff.mp found
    obtain ⟨_, _, rfl⟩ := Option.map_eq_some_iff.mp found'
    exact less
  · exact List.pairwise_map.mpr sorted
  · intro ⟨f, l⟩
    rw [neighbors_mem x index direction exactly, List.mem_map]
    constructor
    · intro ⟨member, ends⟩
      have far := direction.ends_far id f l ends
      refine ⟨l, (members l).mpr ⟨member, ?_⟩, by rw [far]⟩
      rw [far, ends]
    · rintro ⟨other, member, same⟩
      obtain ⟨rfl, rfl⟩ := Prod.mk_inj.mp same
      exact (members other).mp member

theorem outbound_indexed (x : IndexedLinks) (t : LinkTable) (indexes : Indexes x t) (id : String) :
    x.outbound id = (t.outbound id).map fun l => (l.destination, l) := by
  apply neighbors_listed x x.forward .outbound (indexes.links ▸ indexes.forward)
  · exact (LinkTable.outbound_ascending t id).imp fun less => (octets_lt _ _).mp less
  · intro l
    rw [LinkTable.outbound_link, LinkTable.get_some_iff, indexes.links]
    rfl

theorem inbound_indexed (x : IndexedLinks) (t : LinkTable) (indexes : Indexes x t) (id : String) :
    x.inbound id = (t.inbound id).map fun l => (l.source, l) := by
  apply neighbors_listed x x.reverse .inbound (indexes.links ▸ indexes.reverse)
  · exact (LinkTable.inbound_ascending t id).imp fun less => (octets_lt _ _).mp less
  · intro l
    rw [LinkTable.inbound_link, LinkTable.get_some_iff, indexes.links]
    rfl

def change (x : IndexedLinks) : LinkTable.Change → IndexedLinks
  | .register source destination name => (x.register source destination name).2
  | .connect source destination => (x.connect source destination).2
  | .disconnectAll id => (x.disconnectAll id).2

def ofHistory (history : List LinkTable.Change) : IndexedLinks := history.foldl change empty

theorem change_indexed (x : IndexedLinks) (t : LinkTable) (indexes : Indexes x t) (c : LinkTable.Change) :
    Indexes (x.change c) (t.change c) := by
  cases c with
  | register source destination name => exact (register_indexed x t indexes source destination name).2
  | connect source destination => exact (connect_indexed x t indexes source destination).2
  | disconnectAll id => exact (disconnect_indexed x t indexes id).2

theorem history_indexed (history : List LinkTable.Change) :
    Indexes (ofHistory history) (LinkTable.ofHistory history) := by
  induction history using List.reverseRecOn with
  | nil => exact ⟨rfl, EndIndex.empty_exact .outbound, EndIndex.empty_exact .inbound⟩
  | append_singleton history c ih =>
      rw [ofHistory, LinkTable.ofHistory, List.foldl_append, List.foldl_append]
      exact change_indexed _ _ ih c

-- The indexed links hold what the table holds, answer what it answers, and no position leads elsewhere than to the
-- link of its pair.
structure Agrees (x : IndexedLinks) (t : LinkTable) : Prop where
  links : x.links = t.toList
  get : ∀ s d, x.get? s d = t.get? s d
  outbound : ∀ id, x.outbound id = (t.outbound id).map fun l => (l.destination, l)
  inbound : ∀ id, x.inbound id = (t.inbound id).map fun l => (l.source, l)
  shown : x.shown = t.shown
  size : x.size = t.size
  register : ∀ s d name, (x.register s d name).1 = (t.register s d name).1
  connect : ∀ s d, (x.connect s d).1 = (t.connect s d).1
  disconnectAll : ∀ id, (x.disconnectAll id).1 = (t.disconnectAll id).1
  forward : ∀ s d i, x.forward.position? s d = some i ↔ ∃ l, x.links[i]? = some l ∧ l.ends = (s, d)
  reverse : ∀ s d i, x.reverse.position? d s = some i ↔ ∃ l, x.links[i]? = some l ∧ l.ends = (s, d)

theorem indexes_agrees (x : IndexedLinks) (t : LinkTable) (indexes : Indexes x t) : Agrees x t := by
  constructor
  case links => exact indexes.links
  case get => exact indexed_get x t indexes
  case outbound => exact outbound_indexed x t indexes
  case inbound => exact inbound_indexed x t indexes
  case shown => rw [shown, indexes.links, LinkTable.shown]
  case size => rw [size, indexes.links, LinkTable.size]
  case register => exact fun s d name => (register_indexed x t indexes s d name).1
  case connect => exact fun s d => (connect_indexed x t indexes s d).1
  case disconnectAll => exact fun id => (disconnect_indexed x t indexes id).1
  case forward =>
    intro s d i
    rw [indexes.forward, List.getElem?_map, Option.map_eq_some_iff, indexes.links]
    rfl
  case reverse =>
    intro s d i
    rw [indexes.reverse, List.getElem?_map, Option.map_eq_some_iff, indexes.links]
    rfl

end IndexedLinks

theorem LinkTable.table_follows_history (history : List Change) :
    Tells history (ofHistory history) ∧ Answers history (ofHistory history) ∧
      (IndexedLinks.ofHistory history).Agrees (ofHistory history) :=
  ⟨history_tells history, history_answers history,
    IndexedLinks.indexes_agrees _ _ (IndexedLinks.history_indexed history)⟩

end GraphBrowser
