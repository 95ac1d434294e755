import GraphBrowser.Proofs.Retrieval
import Mathlib.Data.Finset.Card

set_option autoImplicit false

namespace GraphBrowser

namespace Explorer

variable {α σ ε : Type} [Coordinate α] [Surface σ α ε]

def expandAlong (x : Explorer α σ ε) (id : String) : List Direction → List Ticket × Explorer α σ ε
  | [] => ([], x)
  | direction :: rest =>
      let (tickets, x) := x.expand id direction
      let (more, x) := x.expandAlong id rest
      (tickets ++ more, x)

theorem expand_along_hidden (x : Explorer α σ ε) (id : String) (order : List Direction)
    (hidden : x.nodes.isVisible id = false) : x.expandAlong id order = ([], x) := by
  induction order with
  | nil => rfl
  | cons direction rest ih =>
      rw [expandAlong, expand_hidden x id direction hidden]
      simp only [ih, List.nil_append]

variable [DecidableEq ε]

theorem expand_along_surveyed (data : Collection) (directions : Set Direction) (root : String) (x : Explorer α σ ε)
    (outstanding : List Ticket) (surveyed : Surveyed data directions root x outstanding) (id : String)
    (shown : x.nodes.isVisible id = true) (order : List Direction) (turned : ∀ d ∈ order, d ∈ directions) :
    Surveyed data directions root (x.expandAlong id order).2 (outstanding ++ (x.expandAlong id order).1) ∧
      (∀ key : String, (x.expandAlong id order).2.nodes[key]?.isSome = x.nodes[key]?.isSome) ∧
      (∀ a, Exhausted data x a → Exhausted data (x.expandAlong id order).2 a) ∧
      ∀ d ∈ order, Exhausted data (x.expandAlong id order).2 ⟨id, d⟩ := by
  induction order generalizing x outstanding with
  | nil =>
      rw [expandAlong, List.append_nil]
      refine ⟨surveyed, fun _ => rfl, fun _ exhausted => exhausted, ?_⟩
      intro d member
      cases member
  | cons direction rest ih =>
      have expanded := expand_shown x id direction shown
      have first := expand_surveyed x outstanding surveyed ⟨id, direction⟩ (turned direction List.mem_cons_self) shown
      have now := expand_exhausts data x ⟨id, direction⟩ shown
      have kept := expanded_exhausted data x _ _ _ expanded
      have known := expanded_known x _ _ _ expanded
      obtain ⟨surveyedLater, knownLater, keptLater, exhaustedLater⟩ :=
        ih (x.expand id direction).2 _ first (expanded_visible x _ _ _ expanded id shown)
          fun d member => turned d (List.mem_cons_of_mem direction member)
      rw [expandAlong, ← List.append_assoc]
      refine ⟨surveyedLater, ?_, ?_, ?_⟩
      · intro key
        exact (knownLater key).trans (known key)
      · intro a exhausted
        exact keptLater a (kept a exhausted)
      · intro d member
        cases List.mem_cons.mp member with
        | inl here => exact here ▸ keptLater ⟨id, direction⟩ now
        | inr later => exact exhaustedLater d later

end Explorer

structure Crawl (α σ ε : Type) [Coordinate α] where
  explorer : Explorer α σ ε
  outstanding : List Ticket

namespace Crawl

variable {α σ ε : Type} [Coordinate α]

def unseen (data : Collection) (crawl : Crawl α σ ε) : Finset String :=
  data.keys.toFinset.filter fun id => crawl.explorer.nodes[id]?.isSome = false

theorem mem_unseen (data : Collection) (crawl : Crawl α σ ε) (id : String) :
    id ∈ unseen data crawl ↔ id ∈ data ∧ crawl.explorer.nodes[id]? = none := by
  rw [unseen, Finset.mem_filter, List.mem_toFinset, Std.ExtTreeMap.mem_keys, Option.isSome_eq_false_iff,
    Option.isNone_iff_eq_none]

variable [Surface σ α ε] [DecidableEq ε]

def start (surface : σ) (settings : Settings α) (root : Fragment) (order : List Direction) : Crawl α σ ε :=
  let (tickets, x) := ((Explorer.new surface settings).openRoot root).2.expandAlong root.id order
  ⟨x, tickets⟩

def next (data : Collection) (x : Explorer α σ ε) (others : List Ticket) (ticket : Ticket) (order : List Direction) :
    Crawl α σ ε :=
  let (tickets, x) := (x.redeem ticket (data.fetch ticket.node)).2.expandAlong ticket.node order
  ⟨x, others ++ tickets⟩

-- Any outstanding ticket may be taken, and its node be expanded in the directions in any order.
inductive Step (data : Collection) (directions : Set Direction) : Crawl α σ ε → Crawl α σ ε → Prop where
  | take (x : Explorer α σ ε) (before after : List Ticket) (ticket : Ticket) (order : List Direction)
      (whole : ∀ d, d ∈ order ↔ d ∈ directions) :
      Step data directions ⟨x, before ++ ticket :: after⟩ (next data x (before ++ after) ticket order)

structure Thorough (data : Collection) (directions : Set Direction) (root : String) (crawl : Crawl α σ ε) : Prop where
  surveyed : Explorer.Surveyed data directions root crawl.explorer crawl.outstanding
  exhausted : ∀ a : Asker, crawl.explorer.nodes[a.anchor]?.isSome = true → a.direction ∈ directions →
    Explorer.Exhausted data crawl.explorer a

section Steps

variable {data : Collection} {directions : Set Direction} {root : String}

theorem missing_step (x : Explorer α σ ε) (before after : List Ticket) (ticket : Ticket) (order : List Direction)
    (thorough : Thorough data directions root ⟨x, before ++ ticket :: after⟩) (missing : data[ticket.node]? = none) :
    Thorough data directions root (next data x (before ++ after) ticket order) ∧
      (next data x (before ++ after) ticket order).explorer.nodes = x.nodes ∧
      (next data x (before ++ after) ticket order).outstanding = before ++ after := by
  obtain ⟨surveyed, nodes, kept⟩ := Explorer.missing_surveyed x before after ticket thorough.surveyed missing
  have hidden : (x.redeem ticket (data.fetch ticket.node)).2.nodes.isVisible ticket.node = false := by
    obtain ⟨_, _, fresh⟩ :=
      Explorer.surveyed_ticket thorough.surveyed ticket (List.mem_append_right before List.mem_cons_self)
    rw [nodes, NodeTable.isVisible, fresh]
    rfl
  have stuck : next data x (before ++ after) ticket order =
      ⟨(x.redeem ticket (data.fetch ticket.node)).2, before ++ after⟩ := by
    rw [next, Explorer.expand_along_hidden _ _ _ hidden]
    simp only [List.append_nil]
  rw [stuck]
  refine ⟨⟨surveyed, ?_⟩, nodes, rfl⟩
  intro a known turned
  rw [nodes] at known
  exact kept a (thorough.exhausted a known turned)

theorem listed_step (x : Explorer α σ ε) (before after : List Ticket) (ticket : Ticket) (order : List Direction)
    (whole : ∀ d, d ∈ order ↔ d ∈ directions) (f : Fragment)
    (thorough : Thorough data directions root ⟨x, before ++ ticket :: after⟩) (listed : root ∈ data)
    (consistent : data.Consistent) (found : data[ticket.node]? = some f) (same : f.id = ticket.node) :
    Thorough data directions root (next data x (before ++ after) ticket order) ∧
      ∀ id : String, (next data x (before ++ after) ticket order).explorer.nodes[id]?.isSome = true ↔
        x.nodes[id]?.isSome = true ∨ id = ticket.node := by
  obtain ⟨surveyed, known, kept⟩ :=
    Explorer.listed_surveyed x before after ticket f thorough.surveyed listed consistent found same
  have shown := surveyed.shown ticket.node ((known ticket.node).mpr (.inr rfl))
  obtain ⟨surveyedLater, knownLater, keptLater, exhausted⟩ :=
    Explorer.expand_along_surveyed data directions root _ _ surveyed ticket.node shown order fun d => (whole d).mp
  have knownNow (id : String) : (next data x (before ++ after) ticket order).explorer.nodes[id]?.isSome = true ↔
      x.nodes[id]?.isSome = true ∨ id = ticket.node := by
    rw [← known, ← knownLater]
    rfl
  refine ⟨⟨surveyedLater, ?_⟩, knownNow⟩
  intro a knownAnchor turned
  cases (knownNow a.anchor).mp knownAnchor with
  | inl old => exact keptLater a (kept a old (thorough.exhausted a old turned))
  | inr new =>
      obtain ⟨anchor, direction⟩ := a
      obtain rfl := new
      exact exhausted direction ((whole direction).mpr turned)

-- A step makes a node known, or it uses up a ticket and makes no node known.
theorem step_thorough (now later : Crawl α σ ε) (step : Step data directions now later)
    (thorough : Thorough data directions root now) (listed : root ∈ data) (consistent : data.Consistent)
    (keyed : ∀ (id : String) (f : Fragment), data[id]? = some f → f.id = id) :
    Thorough data directions root later ∧
      Prod.Lex (· < ·) (· < ·) ((unseen data later).card, later.outstanding.length)
        ((unseen data now).card, now.outstanding.length) := by
  cases step with
  | take x before after ticket order whole =>
      cases found : data[ticket.node]? with
      | none =>
          obtain ⟨thoroughLater, nodes, outstanding⟩ := missing_step x before after ticket order thorough found
          have same : unseen data (next data x (before ++ after) ticket order) =
              unseen data ⟨x, before ++ ticket :: after⟩ := by
            simp only [unseen, nodes]
          refine ⟨thoroughLater, ?_⟩
          rw [same, outstanding]
          apply Prod.Lex.right
          simp only [List.length_append, List.length_cons]
          omega
      | some f =>
          obtain ⟨thoroughLater, known⟩ :=
            listed_step x before after ticket order whole f thorough listed consistent found (keyed ticket.node f found)
          have fewer : unseen data (next data x (before ++ after) ticket order) ⊂
              unseen data ⟨x, before ++ ticket :: after⟩ := by
            rw [Finset.ssubset_iff_of_subset]
            · obtain ⟨_, _, fresh⟩ :=
                Explorer.surveyed_ticket thorough.surveyed ticket (List.mem_append_right before List.mem_cons_self)
              refine ⟨ticket.node, (mem_unseen data _ ticket.node).mpr ⟨(IdMap.mem_iff data _).mpr ⟨f, found⟩, fresh⟩, ?_⟩
              rw [mem_unseen, ← Option.not_isSome_iff_eq_none, known]
              simp
            · intro id unknown
              rw [mem_unseen, ← Option.not_isSome_iff_eq_none, known] at unknown
              rw [mem_unseen, ← Option.not_isSome_iff_eq_none]
              exact ⟨unknown.1, fun old => unknown.2 (.inl old)⟩
          exact ⟨thoroughLater, Prod.Lex.left _ _ (Finset.card_lt_card fewer)⟩

theorem thorough_ends (crawl : Crawl α σ ε) (thorough : Thorough data directions root crawl) (listed : root ∈ data)
    (consistent : data.Consistent) (keyed : ∀ (id : String) (f : Fragment), data[id]? = some f → f.id = id) :
    Acc (fun later now => Step data directions now later) crawl := by
  have lexical : WellFounded (Prod.Lex (· < ·) (· < ·) : Nat × Nat → Nat × Nat → Prop) :=
    WellFounded.prod_lex Nat.lt_wfRel.wf Nat.lt_wfRel.wf
  induction size : ((unseen data crawl).card, crawl.outstanding.length) using lexical.induction generalizing crawl with
  | _ size ih =>
      subst size
      constructor
      intro later step
      obtain ⟨thoroughLater, less⟩ := step_thorough crawl later step thorough listed consistent keyed
      exact ih _ less later thoroughLater rfl

theorem steps_thorough (start finish : Crawl α σ ε) (steps : Relation.ReflTransGen (Step data directions) start finish)
    (thorough : Thorough data directions root start) (listed : root ∈ data) (consistent : data.Consistent)
    (keyed : ∀ (id : String) (f : Fragment), data[id]? = some f → f.id = id) : Thorough data directions root finish := by
  induction steps with
  | refl => exact thorough
  | tail _ last ih => exact (step_thorough _ _ last ih listed consistent keyed).1

end Steps

end Crawl

end GraphBrowser
