import GraphBrowser.Proofs.JointExpansion

set_option autoImplicit false

namespace GraphBrowser

-- Both surfaces were told the same from one surface on, in whatever order.
def Retold {σ α ε : Type} [Surface σ α ε] (start first second : σ) : Prop :=
  ∃ told retold : List (Showing ε), told.Perm retold ∧ first = told.foldl Showing.tell start ∧
    second = retold.foldl Showing.tell start

structure Sketch (σ : Type) {α ε : Type} [Surface σ α ε] (κ : Type) where
  connectors : σ → List κ
  connector : ε → ε → String → κ
  connect : ∀ source target label surface, connectors (Surface.connect source target label surface) =
    connectors surface ++ [connector source target label]
  reveal : ∀ element surface, connectors (Surface.reveal element surface) = connectors surface

def Scene.sketch {α : Type} [Scalar α] : Sketch (Scene α) Connector where
  connectors := Scene.connectors
  connector source target label := { source, target, label }
  connect _ _ _ _ := rfl
  reveal element surface := Scene.change_connectors surface element _

namespace Sketch

variable {σ α ε κ : Type} [Surface σ α ε] (sketch : Sketch σ κ)

def drawn? : Showing ε → Option κ
  | .reveal _ => none
  | .connect source target label => some (sketch.connector source target label)

theorem told_connectors (told : List (Showing ε)) (start : σ) : sketch.connectors (told.foldl Showing.tell start) =
    sketch.connectors start ++ told.filterMap sketch.drawn? := by
  induction told generalizing start with
  | nil => exact (List.append_nil _).symm
  | cons showing rest ih =>
      rw [List.foldl_cons, ih]
      cases showing with
      | reveal element =>
          rw [Showing.tell, sketch.reveal]
          rfl
      | connect source target label =>
          rw [Showing.tell, sketch.connect, List.append_assoc]
          rfl

theorem retold_connectors (start first second : σ) (retold : Retold start first second) :
    (sketch.connectors first).Perm (sketch.connectors second) := by
  obtain ⟨told, again, same, rfl, rfl⟩ := retold
  rw [told_connectors, told_connectors]
  exact (same.filterMap _).append_left _

end Sketch

namespace Explorer

variable {α σ ε : Type} [Coordinate α]

-- All but serial numbers, the order of askers, and the surface.
structure Concordant (y z : Explorer α σ ε) : Prop where
  nodes : y.nodes = z.nodes
  links : y.links = z.links
  pending : ∀ id, id ∈ y.pending ↔ id ∈ z.pending
  askers : ∀ id, (y.askers id).Perm (z.askers id)
  failures : y.failures = z.failures
  issued : y.issued = z.issued
  layout : y.layout = z.layout
  scatter : y.scatter = z.scatter

section Orders

variable [Surface σ α ε]

variable (x y z : Explorer α σ ε) (first second : List Asker) (tickets others : List Ticket)
  (left : Unfurled x first tickets y) (right : Unfurled x second others z) (same : first.Perm second)

include left right same

theorem unfurled_tickets : (tickets.map Ticket.node).Perm (others.map Ticket.node) := by
  rw [List.perm_ext_iff_of_nodup left.once right.once]
  intro id
  rw [left.asked, right.asked, same.any_eq]

theorem unfurled_concordant (foundedLeft : Founded y) (foundedRight : Founded z) : Concordant y z := by
  have tickets := (unfurled_tickets x y z first second tickets others left right same).length_eq
  rw [List.length_map, List.length_map] at tickets
  refine ⟨?_, ?_, ?_, ?_, ?_, ?_, ?_, ?_⟩
  · apply Std.ExtTreeMap.ext_getElem?
    intro id
    rw [left.nodes, right.nodes, same.any_eq]
  · refine LinkTable.table_ext _ _ (left.untouched.order.trans right.untouched.order.symm) ?_
    intro s d
    rw [left.links, right.links]
    simp only [same.any_eq]
  · intro id
    rw [Std.ExtTreeMap.mem_iff_isSome_getElem?, Std.ExtTreeMap.mem_iff_isSome_getElem?, left.pending, right.pending,
      same.any_eq]
  · intro id
    rw [List.perm_ext_iff_of_nodup (founded_askers y foundedLeft id).1 (founded_askers z foundedRight id).1]
    intro a
    rw [left.waiting, right.waiting, same.mem_iff]
  · apply Std.ExtTreeMap.ext_getElem?
    intro id
    rw [left.failures, right.failures, same.any_eq]
  · rw [left.issued, right.issued, tickets]
  · rw [left.untouched.layout, right.untouched.layout]
  · rw [left.untouched.scatter, right.untouched.scatter]

theorem unfurled_retold : Retold x.surface y.surface z.surface := by
  obtain ⟨details, distinct, listed, told⟩ := left.told
  obtain ⟨again, distinctAgain, listedAgain, retold⟩ := right.told
  have rearranged : details.Perm again := by
    rw [List.perm_ext_iff_of_nodup distinct distinctAgain]
    intro detail
    rw [listed, listedAgain]
    simp only [same.mem_iff]
  exact ⟨_, _, rearranged.flatMap_right x.due, told, retold⟩

end Orders

variable [Surface σ α ε] [DecidableEq ε] {δ : Type} [Adjustable σ δ]

theorem expand_all_run (askers : List Asker) (x : Explorer α σ ε) :
    (x.expandAll askers).2 = x.run (askers.map fun a => (.expand a.anchor a.direction : Operation α ε δ)) := by
  induction askers generalizing x with
  | nil => rfl
  | cons asker rest ih => exact ih (x.expand asker.anchor asker.direction).2

theorem expansions_commute (surface : σ) (settings : Settings α) (ops : List (Operation α ε δ))
    (first second : List Asker) (same : first.Perm second)
    (shown : ∀ a ∈ first, ((Explorer.new surface settings : Explorer α σ ε).run ops).nodes.isVisible a.anchor = true) :
    let x : Explorer α σ ε := (Explorer.new surface settings).run ops
    ((x.expandAll first).1.map Ticket.node).Perm ((x.expandAll second).1.map Ticket.node) ∧
      Concordant (x.expandAll first).2 (x.expandAll second).2 ∧
      Retold x.surface (x.expandAll first).2.surface (x.expandAll second).2.surface ∧
      ∀ (κ : Type) (sketch : Sketch σ κ), (sketch.connectors (x.expandAll first).2.surface).Perm
        (sketch.connectors (x.expandAll second).2.surface) := by
  intro x
  have founded (askers : List Asker) : Founded (x.expandAll askers).2 := by
    rw [expand_all_run (δ := δ), ← run_append]
    exact run_founded surface settings _
  have left := expand_all_unfurled first x shown
  have right := expand_all_unfurled second x fun a member => shown a (same.mem_iff.mpr member)
  have retold := unfurled_retold x _ _ first second _ _ left right same
  refine ⟨unfurled_tickets x _ _ first second _ _ left right same, ?_, retold, ?_⟩
  · exact unfurled_concordant x _ _ first second _ _ left right same (founded first) (founded second)
  · intro κ sketch
    exact sketch.retold_connectors x.surface _ _ retold

-- a and b are next to each other and to c, which is closed, and to d, which is not known.
def entwined : List (Operation Float Nat (Scene.Adjustment Float)) :=
  [.openRoot ⟨⟨"c", none⟩, []⟩, .collapse "c",
    .openRoot ⟨⟨"a", none⟩, [⟨"a", "b", "knows"⟩, ⟨"a", "c", "knows"⟩, ⟨"a", "d", "likes"⟩]⟩,
    .openRoot ⟨⟨"b", none⟩, [⟨"b", "c", "likes"⟩, ⟨"b", "d", "likes"⟩]⟩]

def bothWays : List Asker := [⟨"a", .outbound⟩, ⟨"b", .inbound⟩, ⟨"b", .outbound⟩]

theorem expansions_commute_when_entwined :
    bothWays.Perm bothWays.reverse ∧ (∀ a ∈ bothWays, (session entwined).nodes.isVisible a.anchor = true) ∧
      (((session entwined).expandAll bothWays).1.map Ticket.node).Perm
        (((session entwined).expandAll bothWays.reverse).1.map Ticket.node) ∧
      Concordant ((session entwined).expandAll bothWays).2 ((session entwined).expandAll bothWays.reverse).2 ∧
      ((session entwined).expandAll bothWays).2.surface.connectors.Perm
        ((session entwined).expandAll bothWays.reverse).2.surface.connectors := by
  have same : bothWays.Perm bothWays.reverse := (List.reverse_perm bothWays).symm
  have shown : ∀ a ∈ bothWays, (session entwined).nodes.isVisible a.anchor = true := by decide +kernel
  obtain ⟨tickets, concordant, _, connectors⟩ := expansions_commute (Scene.empty ⟨800, 600⟩ : Scene Float) .standard
    entwined bothWays bothWays.reverse same shown
  exact ⟨same, shown, tickets, concordant, connectors Connector Scene.sketch⟩

end Explorer

end GraphBrowser
