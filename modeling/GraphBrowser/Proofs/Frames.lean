import GraphBrowser.Proofs.Arrival
import GraphBrowser.Proofs.Elements
import GraphBrowser.Proofs.Expansion
import Mathlib.Data.List.Induction

set_option autoImplicit false

namespace GraphBrowser

namespace Layout.Run

variable {α ε : Type} [Coordinate α]

def ticked (r : Run α ε) : Run α ε :=
  let simulation := r.settings.course.update (r.iteration + 1) r.settings.timeStep r.simulation
  { r with
    simulation
    displayed := display r.settings.ease r.displayed (positions simulation)
    iteration := r.iteration + 1 }

def painted (r : Run α ε) : Frame α ε where
  iteration := r.iteration + 1
  placements :=
    if paints r.settings (r.iteration + 1) then
      r.placements r.ticked.displayed (positions r.ticked.simulation)
    else []

theorem finished_iff (r : Run α ε) (e : Engine α) :
    r.isFinished e = true ↔ r.generation ≠ e.generation ∨ r.settings.maxIterations ≤ r.iteration := by
  simp [isFinished, isCancelled, @eq_comm _ e.generation]

theorem next_eq (r : Run α ε) (e : Engine α) :
    r.next? e = if r.isFinished e then none else some (r.painted, r.ticked) := rfl

theorem next_unfinished (r : Run α ε) (e : Engine α) (unfinished : r.isFinished e = false) :
    r.next? e = some (r.painted, r.ticked) := by
  rw [next_eq, unfinished, if_neg Bool.false_ne_true]

theorem next_some (r next : Run α ε) (e : Engine α) (frame : Frame α ε) (pulled : r.next? e = some (frame, next)) :
    frame = r.painted ∧ next = r.ticked := by
  cases finished : r.isFinished e with
  | true =>
      rw [next_eq, finished, if_pos rfl] at pulled
      cases pulled
  | false =>
      rw [next_unfinished r e finished] at pulled
      cases pulled
      exact ⟨rfl, rfl⟩

theorem painted_members (r : Run α ε) (p : Placement α ε) (member : p ∈ r.painted.placements) :
    (p.id, p.element) ∈ r.members := by
  simp only [painted] at member
  split at member
  next =>
    unfold placements at member
    split at member
    next => cases member
    next =>
      obtain ⟨⟨owner, position⟩, kept, rfl⟩ := List.mem_map.mp member
      exact (List.of_mem_zip (List.mem_filter.mp kept).1).1
  next => cases member

-- Pulling at the run gives the frame sooner or later. The engine may go on between two pulls.
inductive Yields : Run α ε → Frame α ε → Prop where
  | now (r next : Run α ε) (e : Engine α) (frame : Frame α ε) (pulled : r.next? e = some (frame, next)) :
      Yields r frame
  | later (r next : Run α ε) (e : Engine α) (first frame : Frame α ε) (pulled : r.next? e = some (first, next))
      (rest : Yields next frame) : Yields r frame

theorem yields_members (r : Run α ε) (frame : Frame α ε) (yields : r.Yields frame) (p : Placement α ε)
    (member : p ∈ frame.placements) : (p.id, p.element) ∈ r.members := by
  induction yields with
  | now r next e frame pulled =>
      obtain ⟨rfl, _⟩ := next_some r next e frame pulled
      exact painted_members r p member
  | later r next e first frame pulled _ ih =>
      obtain ⟨_, rfl⟩ := next_some r next e first pulled
      exact ih member

end Layout.Run

namespace Explorer

variable {α σ ε : Type} [Coordinate α] [Surface σ α ε]

theorem run_layout_members (x : Explorer α σ ε) (id : String) (element : ε)
    (member : (id, element) ∈ x.runLayout.1.members) : x.element? id = some element := by
  obtain ⟨⟨key, node⟩, shown, same⟩ := List.mem_map.mp member
  obtain ⟨rfl, rfl⟩ := Prod.mk.inj same
  exact element_of_get x key node ((NodeTable.mem_shown x.nodes key node).mp shown).1

variable [DecidableEq ε] {δ : Type} [Adjustable σ δ]

-- Every frame that is applied comes from a layout run that was started before.
def OwnFrames (x : Explorer α σ ε) (ops : List (Operation α ε δ)) : Prop :=
  ∀ before frame, before ++ [.applyFrame frame] <+: ops →
    ∃ earlier, earlier ++ [.runLayout] <+: before ∧ (x.run earlier).runLayout.1.Yields frame

theorem own_frames_earlier (x : Explorer α σ ε) (before ops : List (Operation α ε δ)) (started : before <+: ops)
    (own : OwnFrames x ops) : OwnFrames x before :=
  fun earlier frame applied => own earlier frame (applied.trans started)

theorem own_frames_none (x : Explorer α σ ε) (ops : List (Operation α ε δ))
    (none : ∀ op ∈ ops, ∀ frame, op ≠ .applyFrame frame) : OwnFrames x ops := by
  intro before frame applied
  exact absurd rfl (none _ (applied.subset (List.mem_append_right before List.mem_cons_self)) frame)

theorem own_frames_snoc (x : Explorer α σ ε) (ops : List (Operation α ε δ)) (op : Operation α ε δ)
    (own : OwnFrames x ops)
    (last : ∀ frame, op = .applyFrame frame →
      ∃ earlier, earlier ++ [.runLayout] <+: ops ∧ (x.run earlier).runLayout.1.Yields frame) :
    OwnFrames x (ops ++ [op]) := by
  intro before frame applied
  rcases List.prefix_concat_iff.mp applied with whole | sooner
  · obtain ⟨rfl, same⟩ := List.append_inj' whole rfl
    exact last frame (List.singleton_inj.mp same).symm
  · exact own before frame sooner

theorem yielded_elements (x : Explorer α σ ε) (earlier later : List (Operation α ε δ)) (frame : Layout.Frame α ε)
    (yields : (x.run earlier).runLayout.1.Yields frame) (p : Layout.Placement α ε) (member : p ∈ frame.placements) :
    (x.run (earlier ++ [.runLayout] ++ later)).element? p.id = some p.element := by
  have placed := Layout.Run.yields_members _ frame yields p member
  have known := run_layout_members (x.run earlier) p.id p.element placed
  rw [List.append_assoc, run_append]
  exact run_element _ ([.runLayout] ++ later) p.id p.element known

theorem own_frame_elements (x : Explorer α σ ε) (ops : List (Operation α ε δ)) (frame : Layout.Frame α ε)
    (own : OwnFrames x (ops ++ [.applyFrame frame])) (p : Layout.Placement α ε) (member : p ∈ frame.placements) :
    (x.run ops).element? p.id = some p.element := by
  obtain ⟨earlier, ⟨later, rfl⟩, yields⟩ := own ops frame List.prefix_rfl
  exact yielded_elements x earlier later frame yields p member

theorem attach_own (x : Explorer α σ ε) (fragment : Fragment) :
    (x.attach fragment).2.element? fragment.id = some (x.attach fragment).1 := by
  rw [element?, attach_get, if_pos rfl, attach_element, Option.map_some]

-- An invariant that every part of an operation keeps. Only elements of known nodes are moved.
structure Upheld (P : Explorer α σ ε → Prop) : Prop where
  note : ∀ (x : Explorer α σ ε) layout scatter pending failures issued,
    P x → P { x with layout, scatter, pending, failures, issued }
  reveal : ∀ x id, P x → P (x.reveal id)
  hide : ∀ x id, P x → P (x.hide id)
  move : ∀ x id element offset, x.element? id = some element → P x → P (x.moveTo element offset)
  join : ∀ x s d, P x → P (x.join s d).2
  attach : ∀ x fragment, P x → P (x.attach fragment).2
  collapse : ∀ x id, P x → P (x.collapse id).2
  adjust : ∀ (x : Explorer α σ ε) (change : δ), P x → P { x with surface := Adjustable.adjust change x.surface }

variable {P : Explorer α σ ε → Prop} (upheld : Upheld (δ := δ) P)

include upheld

theorem request_upheld (x : Explorer α σ ε) (holds : P x) (asker : Asker) (neighbor : String) :
    P (x.request asker neighbor).2 := by
  cases found : x.pending[neighbor]? with
  | none =>
      simp only [request, found]
      exact upheld.note x _ _ _ _ _ holds
  | some fetch =>
      simp only [request, found]
      split
      next => exact upheld.note x _ _ _ _ _ holds
      next => exact upheld.note x _ _ _ _ _ holds

theorem reach_upheld (x : Explorer α σ ε) (holds : P x) (asker : Asker) (neighbor : String) :
    P (x.reach asker neighbor).2 := by
  cases found : x.nodes[neighbor]? with
  | none =>
      rw [reach_unknown x asker neighbor found]
      exact request_upheld upheld x holds asker neighbor
  | some node =>
      simp only [reach, found]
      apply upheld.join
      split
      next => exact holds
      next => exact upheld.reveal x neighbor holds

theorem reach_all_upheld (asker : Asker) (neighbors : List String) (x : Explorer α σ ε) (holds : P x) :
    P (x.reachAll asker neighbors).2 := by
  induction neighbors generalizing x with
  | nil => exact holds
  | cons neighbor rest ih => exact ih _ (reach_upheld upheld x holds asker neighbor)

theorem expand_upheld (x : Explorer α σ ε) (holds : P x) (id : String) (direction : Direction) :
    P (x.expand id direction).2 := by
  rw [expand]
  split
  next => exact reach_all_upheld upheld _ _ x holds
  next => exact holds

theorem join_all_upheld (neighbor : String) (askers : List Asker) (x : Explorer α σ ε) (holds : P x) :
    P (x.joinAll neighbor askers).2 := by
  induction askers generalizing x with
  | nil => exact holds
  | cons asker rest ih => exact ih _ (upheld.join x _ _ holds)

theorem open_root_upheld (x : Explorer α σ ε) (holds : P x) (fragment : Fragment) : P (x.openRoot fragment).2 := by
  refine upheld.move _ fragment.id _ _ ?_ (upheld.reveal _ fragment.id (upheld.attach x fragment holds))
  rw [set_visible_element _ _ fragment.id true (reveal_nodes _ fragment.id)]
  exact attach_own x fragment

theorem scatter_upheld (x : Explorer α σ ε) (holds : P x) (id : String) (element anchor : ε)
    (known : x.element? id = some element) : P (x.scatterAround element anchor) := by
  have drawn (scatter : Scatter α) (offset : Point α) : P (moveTo { x with scatter } element offset) :=
    upheld.move { x with scatter } id element offset known
      (upheld.note x x.layout scatter x.pending x.failures x.issued holds)
  exact drawn _ _

theorem receive_upheld (x : Explorer α σ ε) (holds : P x) (fragment : Fragment) (askers : List Asker) :
    P (x.receive fragment askers).2 := by
  have attached := upheld.attach x fragment holds
  simp only [receive]
  split
  next =>
    split
    next => exact upheld.hide _ fragment.id attached
    next => exact attached
  next anchor _ =>
    apply join_all_upheld upheld
    apply upheld.reveal
    split
    next => exact scatter_upheld upheld _ attached fragment.id _ anchor (attach_own x fragment)
    next => exact attached

theorem redeem_upheld (x : Explorer α σ ε) (holds : P x) (ticket : Ticket) (result : FetchResult) :
    P (x.redeem ticket result).2 := by
  rw [redeem]
  split
  next => exact holds
  next fetch _ =>
    split
    next =>
      have erased := upheld.note x x.layout x.scatter (x.pending.erase ticket.node) x.failures x.issued holds
      dsimp only
      split
      next => exact upheld.note _ _ _ _ _ _ erased
      next fragment =>
        split
        next => exact receive_upheld upheld _ erased fragment fetch.askers
        next => exact upheld.note _ _ _ _ _ _ erased
    next => exact holds

theorem apply_placements_upheld (placements : List (Layout.Placement α ε)) (x : Explorer α σ ε) (holds : P x)
    (known : ∀ p ∈ placements, x.element? p.id = some p.element) : P (x.applyPlacements placements).2 := by
  induction placements generalizing x with
  | nil => exact holds
  | cons p rest ih =>
      have others : ∀ q ∈ rest, x.element? q.id = some q.element :=
        fun q member => known q (List.mem_cons_of_mem p member)
      rw [applyPlacements]
      split
      next => exact ih _ (upheld.move x p.id p.element p.offset (known p List.mem_cons_self) holds) others
      next => exact ih x holds others

theorem perform_upheld (x : Explorer α σ ε) (holds : P x) (op : Operation α ε δ)
    (own : ∀ frame, op = .applyFrame frame → ∀ p ∈ frame.placements, x.element? p.id = some p.element) :
    P (x.perform op) := by
  cases op with
  | openRoot fragment => exact open_root_upheld upheld x holds fragment
  | expand id direction => exact expand_upheld upheld x holds id direction
  | redeem ticket result => exact redeem_upheld upheld x holds ticket result
  | collapse id => exact upheld.collapse x id holds
  | runLayout => exact upheld.note x _ _ _ _ _ holds
  | cancelLayout => exact upheld.note x _ _ _ _ _ holds
  | applyFrame frame => exact apply_placements_upheld upheld frame.placements x holds (own frame rfl)
  | adjust change => exact upheld.adjust x change holds

theorem run_upheld (x : Explorer α σ ε) (holds : P x) (ops : List (Operation α ε δ)) (own : OwnFrames x ops) :
    P (x.run ops) := by
  induction ops using List.reverseRecOn with
  | nil => exact holds
  | append_singleton ops op ih =>
      rw [run_snoc]
      apply perform_upheld upheld _ (ih (own_frames_earlier x ops _ (List.prefix_append ops [op]) own))
      rintro frame rfl p member
      exact own_frame_elements x ops frame own p member

end Explorer

end GraphBrowser
