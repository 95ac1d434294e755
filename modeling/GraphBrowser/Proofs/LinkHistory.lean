import GraphBrowser.Proofs.ByteOrder
import GraphBrowser.Proofs.LinkNames
import Mathlib.Data.List.Induction

set_option autoImplicit false

namespace GraphBrowser.LinkTable

inductive Change where
  | register (source destination name : String)
  | connect (source destination : String)
  | disconnectAll (id : String)
deriving DecidableEq

def change (t : LinkTable) : Change → LinkTable
  | .register source destination name => (t.register source destination name).2
  | .connect source destination => (t.connect source destination).2
  | .disconnectAll id => (t.disconnectAll id).2

def ofHistory (history : List Change) : LinkTable := history.foldl change empty

theorem of_history_snoc (history : List Change) (c : Change) :
    ofHistory (history ++ [c]) = (ofHistory history).change c := by
  rw [ofHistory, List.foldl_append]
  rfl

def Change.pair? : Change → Option (String × String)
  | .register source destination _ => some (source, destination)
  | _ => none

def Change.name? (s d : String) : Change → Option String
  | .register source destination name => if s = source ∧ d = destination then some name else none
  | _ => none

def registeredPairs (history : List Change) : List (String × String) := history.filterMap Change.pair?

def registeredNames (history : List Change) (s d : String) : List String := history.filterMap (Change.name? s d)

def Registered (history : List Change) (s d : String) : Prop := ∃ name, .register s d name ∈ history

-- The pair was connected while it was registered, and neither end has been disconnected since.
def Connected (history : List Change) (s d : String) : Prop :=
  ∃ before after, history = before ++ .connect s d :: after ∧ Registered before s d ∧
    .disconnectAll s ∉ after ∧ .disconnectAll d ∉ after

theorem mem_registered_pairs (history : List Change) (s d : String) :
    (s, d) ∈ registeredPairs history ↔ Registered history s d := by
  rw [registeredPairs, List.mem_filterMap]
  constructor
  · rintro ⟨c, member, pair⟩
    cases c with
    | register source destination name =>
        cases pair
        exact ⟨name, member⟩
    | connect source destination => cases pair
    | disconnectAll id => cases pair
  · rintro ⟨name, member⟩
    exact ⟨.register s d name, member, rfl⟩

theorem mem_registered_names (history : List Change) (s d name : String) :
    name ∈ registeredNames history s d ↔ .register s d name ∈ history := by
  rw [registeredNames, List.mem_filterMap]
  constructor
  · rintro ⟨c, member, named⟩
    cases c with
    | register source destination other =>
        simp only [Change.name?, Option.ite_none_right_eq_some, Option.some.injEq] at named
        obtain ⟨⟨rfl, rfl⟩, rfl⟩ := named
        exact member
    | connect source destination => cases named
    | disconnectAll id => cases named
  · intro member
    exact ⟨.register s d name, member, if_pos ⟨rfl, rfl⟩⟩

def noted {β : Type} [BEq β] [LawfulBEq β] (listed : List β) : Option β → List β
  | none => listed
  | some entry => if entry ∈ listed then listed else listed ++ [entry]

theorem erase_dups_snoc {β : Type} [BEq β] [LawfulBEq β] (entries : List β) (new : Option β) :
    (entries ++ new.toList).eraseDups = noted entries.eraseDups new := by
  rw [List.eraseDups_append]
  cases new with
  | none => simp [noted, List.removeAll]
  | some entry => by_cases old : entry ∈ entries <;> simp [noted, List.removeAll, old, List.eraseDups_cons]

-- A list to which each change adds its entry, if it has one that is new, holds the entries of the history in the
-- order of their first occurrence.
theorem noted_history {β : Type} [BEq β] [LawfulBEq β] (held : LinkTable → List β) (entry : Change → Option β)
    (start : held empty = []) (step : ∀ t c, held (t.change c) = noted (held t) (entry c)) (history : List Change) :
    held (ofHistory history) = (history.filterMap entry).eraseDups := by
  induction history using List.reverseRecOn with
  | nil => exact start
  | append_singleton history c ih =>
      have last : [c].filterMap entry = (entry c).toList := by cases found : entry c <;> simp [found]
      rw [of_history_snoc, step, ih, List.filterMap_append, last, erase_dups_snoc]

theorem change_names (t : LinkTable) (c : Change) (s d : String) :
    (t.change c).names s d = noted (t.names s d) (c.name? s d) := by
  cases c with
  | register source destination name =>
      rw [change, register_names, Change.name?]
      by_cases here : s = source ∧ d = destination
      · simp [here, noted]
      · simp [here, noted]
  | connect source destination => exact connect_names t source destination s d
  | disconnectAll id => exact disconnect_names t id s d

theorem map_ends (t : LinkTable) (f : Link → Link) (keeps : ∀ l, (f l).ends = l.ends) :
    (t.map f keeps).toList.map Link.ends = t.toList.map Link.ends := by
  rw [map, List.map_map]
  exact List.map_congr_left fun l _ => keeps l

theorem update_ends (t : LinkTable) (source destination : String) (f : Link → Link)
    (keeps : ∀ l, (f l).ends = l.ends) : (t.update source destination f keeps).toList.map Link.ends =
      t.toList.map Link.ends := map_ends t _ _

theorem known_iff_mem (t : LinkTable) (s d : String) :
    (t.get? s d).isSome = true ↔ (s, d) ∈ t.toList.map Link.ends := by
  rw [Option.isSome_iff_exists, List.mem_map]
  exact exists_congr fun l => get_some_iff t s d l

theorem change_ends (t : LinkTable) (c : Change) :
    (t.change c).toList.map Link.ends = noted (t.toList.map Link.ends) c.pair? := by
  cases c with
  | register source destination name =>
      have known := known_iff_mem t source destination
      simp only [change, register, Change.pair?, noted]
      split
      next absent =>
        rw [absent] at known
        rw [if_neg fun member => Bool.false_ne_true (known.mpr member)]
        exact List.map_append
      next l found =>
        rw [found] at known
        rw [if_pos (known.mp rfl)]
        split
        next => rfl
        next => exact update_ends t source destination (·.addName name) fun _ => rfl
  | connect source destination =>
      simp only [change, connect, Change.pair?, noted]
      split
      next => rfl
      next =>
        split
        next => rfl
        next => exact update_ends t source destination ({ · with visible := true }) fun _ => rfl
  | disconnectAll id => exact map_ends t _ fun l => by split <;> rfl

theorem history_names (history : List Change) (s d : String) :
    (ofHistory history).names s d = (registeredNames history s d).eraseDups :=
  noted_history (·.names s d) (Change.name? s d) rfl (fun t c => change_names t c s d) history

theorem history_ends (history : List Change) :
    (ofHistory history).toList.map Link.ends = (registeredPairs history).eraseDups :=
  noted_history (·.toList.map Link.ends) Change.pair? rfl change_ends history

theorem history_known (history : List Change) (s d : String) :
    ((ofHistory history).get? s d).isSome = true ↔ Registered history s d := by
  rw [known_iff_mem, history_ends, List.mem_eraseDups, mem_registered_pairs]

theorem change_visible (t : LinkTable) (c : Change) (s d : String) :
    (t.change c).isVisible s d = true ↔ c = .connect s d ∧ (t.get? s d).isSome = true ∨
      t.isVisible s d = true ∧ c ≠ .disconnectAll s ∧ c ≠ .disconnectAll d := by
  have known (visible : t.isVisible s d = true) : (t.get? s d).isSome = true := by
    obtain ⟨l, found, _⟩ := (visible_iff t s d).mp visible
    rw [found]
    rfl
  cases c with
  | register source destination name => simp [change, register_visible]
  | connect source destination =>
      rw [change, connect_visible]
      by_cases here : s = source ∧ d = destination
      · obtain ⟨rfl, rfl⟩ := here
        simpa using known
      · have other : ¬ (source = s ∧ destination = d) := fun same => here ⟨same.1.symm, same.2.symm⟩
        simp [here, other]
  | disconnectAll id =>
      rw [change, disconnect_visible]
      simp [@eq_comm _ id]

theorem connected_snoc (history : List Change) (c : Change) (s d : String) :
    Connected (history ++ [c]) s d ↔ c = .connect s d ∧ Registered history s d ∨
      Connected history s d ∧ c ≠ .disconnectAll s ∧ c ≠ .disconnectAll d := by
  constructor
  · rintro ⟨before, after, parts, registered, sourceKept, destinationKept⟩
    rcases (parted_snoc history before after c _).mp parts with ⟨_, rfl, rfl⟩ | ⟨earlier, rfl, rfl⟩
    · exact .inl ⟨rfl, registered⟩
    · simp only [List.mem_append, List.mem_singleton, not_or] at sourceKept destinationKept
      exact .inr ⟨⟨before, earlier, rfl, registered, sourceKept.1, destinationKept.1⟩,
        Ne.symm sourceKept.2, Ne.symm destinationKept.2⟩
  · rintro (⟨rfl, registered⟩ | ⟨⟨before, after, rfl, registered, sourceKept, destinationKept⟩, notSource, notDestination⟩)
    · exact ⟨history, [], rfl, registered, List.not_mem_nil, List.not_mem_nil⟩
    · refine ⟨before, after ++ [c], by simp, registered, ?_, ?_⟩
      · simp [sourceKept, Ne.symm notSource]
      · simp [destinationKept, Ne.symm notDestination]

theorem history_visible (history : List Change) (s d : String) :
    (ofHistory history).isVisible s d = true ↔ Connected history s d := by
  induction history using List.reverseRecOn with
  | nil =>
      constructor
      · intro visible
        cases visible
      · rintro ⟨before, after, parts, _⟩
        cases before <;> cases parts
  | append_singleton history c ih => rw [of_history_snoc, change_visible, connected_snoc, ih, history_known]

theorem sorted_ascending (far : Link → String) (links : List Link)
    (distinct : ((links.mergeSort fun a b => decide (far a ≤ far b)).map far).Nodup) :
    (links.mergeSort fun a b => decide (far a ≤ far b)).Pairwise fun a b => octets (far a) < octets (far b) := by
  have apart := List.pairwise_map.mp distinct
  refine ((sorted_texts far links).and apart).imp ?_
  rintro a b ⟨ordered, differ⟩
  rw [octets_lt]
  exact lt_of_le_of_ne ordered differ

theorem outbound_ascending (t : LinkTable) (id : String) :
    (t.outbound id).Pairwise fun a b => octets a.destination < octets b.destination :=
  sorted_ascending Link.destination _ (outbound_distinct t id)

theorem inbound_ascending (t : LinkTable) (id : String) :
    (t.inbound id).Pairwise fun a b => octets a.source < octets b.source :=
  sorted_ascending Link.source _ (inbound_distinct t id)

theorem outbound_link (t : LinkTable) (id : String) (l : Link) :
    l ∈ t.outbound id ↔ t.get? id l.destination = some l := by
  rw [outbound, List.mem_mergeSort, List.mem_filter, beq_iff_eq, get_some_iff, Link.ends]
  simp

theorem inbound_link (t : LinkTable) (id : String) (l : Link) :
    l ∈ t.inbound id ↔ t.get? l.source id = some l := by
  rw [inbound, List.mem_mergeSort, List.mem_filter, beq_iff_eq, get_some_iff, Link.ends]
  simp

theorem shown_link (t : LinkTable) (l : Link) :
    l ∈ t.shown ↔ t.get? l.source l.destination = some l ∧ l.visible = true := by
  rw [shown, List.mem_filter, get_some_iff]
  simp [Link.ends]

structure Tells (history : List Change) (t : LinkTable) : Prop where
  known : ∀ s d, (t.get? s d).isSome = true ↔ Registered history s d
  record : ∀ s d l, t.get? s d = some l → l.source = s ∧ l.destination = d ∧
    l.names = (registeredNames history s d).eraseDups ∧ (l.visible = true ↔ Connected history s d)
  size : t.size = (registeredPairs history).eraseDups.length
  shown : ∀ l, l ∈ t.shown ↔ t.get? l.source l.destination = some l ∧ Connected history l.source l.destination
  -- A part of the registered pairs, in their order, and no pair twice.
  shownOrder : (t.shown.map Link.ends).Sublist (registeredPairs history).eraseDups ∧ (t.shown.map Link.ends).Nodup
  outbound : ∀ id, (t.outbound id).Pairwise (fun a b => octets a.destination < octets b.destination) ∧
    ∀ l, l ∈ t.outbound id ↔ t.get? id l.destination = some l
  inbound : ∀ id, (t.inbound id).Pairwise (fun a b => octets a.source < octets b.source) ∧
    ∀ l, l ∈ t.inbound id ↔ t.get? l.source id = some l

structure Answers (history : List Change) (t : LinkTable) : Prop where
  register : ∀ s d name, (t.register s d name).1 = true ↔ .register s d name ∉ history
  connect : ∀ s d, (t.connect s d).1 = true ↔
    Registered history s d ∧ ¬ Connected history s d ∧ Connected (history ++ [.connect s d]) s d
  disconnectAll : ∀ id, ∃ pairs : List (String × String), pairs.Nodup ∧ (t.disconnectAll id).1 = pairs.length ∧
    ∀ s d, (s, d) ∈ pairs ↔ Connected history s d ∧ (s = id ∨ d = id)

theorem history_record (history : List Change) (s d : String) (l : Link)
    (found : (ofHistory history).get? s d = some l) : l.source = s ∧ l.destination = d ∧
      l.names = (registeredNames history s d).eraseDups ∧ (l.visible = true ↔ Connected history s d) := by
  obtain ⟨source, destination⟩ := get_ends _ s d l found
  refine ⟨source, destination, ?_, ?_⟩
  · rw [← names_of_get _ s d l found, history_names]
  · rw [← visible_of_get _ s d l found, history_visible]

theorem history_tells (history : List Change) : Tells history (ofHistory history) := by
  refine ⟨history_known history, history_record history, ?_, ?_, ?_, ?_, ?_⟩
  · rw [size, ← history_ends, List.length_map]
  · intro l
    rw [shown_link]
    refine and_congr_right fun found => ?_
    exact (history_record history l.source l.destination l found).2.2.2
  · have part : ((ofHistory history).shown.map Link.ends).Sublist ((ofHistory history).toList.map Link.ends) :=
      List.filter_sublist.map Link.ends
    exact ⟨history_ends history ▸ part, (ofHistory history).distinct.sublist part⟩
  · exact fun id => ⟨outbound_ascending _ id, outbound_link _ id⟩
  · exact fun id => ⟨inbound_ascending _ id, inbound_link _ id⟩

theorem register_true (t : LinkTable) (s d name : String) : (t.register s d name).1 = true ↔ name ∉ t.names s d := by
  unfold register
  split
  next absent => simp [names, absent]
  next l found =>
    rw [names_of_get t s d l found]
    split
    next old => simp [old]
    next new => simp [new]

theorem disconnect_counts (t : LinkTable) (id : String) :
    ∃ pairs : List (String × String), pairs.Nodup ∧ (t.disconnectAll id).1 = pairs.length ∧
      ∀ s d, (s, d) ∈ pairs ↔ t.isVisible s d = true ∧ (s = id ∨ d = id) := by
  refine ⟨(t.toList.filter fun l => l.touches id && l.visible).map Link.ends,
    t.distinct.sublist (List.filter_sublist.map Link.ends), ?_, ?_⟩
  · rw [List.length_map, ← List.countP_eq_length_filter]
    rfl
  · intro s d
    rw [List.mem_map, visible_iff]
    constructor
    · rintro ⟨l, member, ends⟩
      obtain ⟨listed, closing⟩ := List.mem_filter.mp member
      rw [Bool.and_eq_true] at closing
      obtain ⟨rfl, rfl⟩ := Prod.mk.inj ends
      exact ⟨⟨l, get_of_mem t l listed, closing.2⟩, by simpa [Link.touches] using closing.1⟩
    · rintro ⟨⟨l, found, visible⟩, touched⟩
      obtain ⟨listed, ends⟩ := (get_some_iff t s d l).mp found
      obtain ⟨rfl, rfl⟩ := Prod.mk.inj ends
      exact ⟨l, List.mem_filter.mpr ⟨listed, by simpa [Link.touches, visible] using touched⟩, rfl⟩

theorem history_answers (history : List Change) : Answers history (ofHistory history) := by
  refine ⟨?_, ?_, ?_⟩
  · intro s d name
    rw [register_true, history_names, List.mem_eraseDups, mem_registered_names]
  · intro s d
    rw [← history_visible, ← history_visible, ← history_known, of_history_snoc, change_visible, connect_fires]
    cases found : (ofHistory history).get? s d with
    | none => simp
    | some l => simp [visible_of_get _ s d l found]
  · intro id
    obtain ⟨pairs, distinct, count, members⟩ := disconnect_counts (ofHistory history) id
    refine ⟨pairs, distinct, count, ?_⟩
    intro s d
    rw [members, history_visible]

-- A link from a node to itself is disconnected once.
example : ((ofHistory [.register "a" "b" "x", .register "a" "a" "y", .connect "a" "a", .connect "a" "b"]).disconnectAll
    "a").1 = 2 := by decide +kernel

end GraphBrowser.LinkTable
