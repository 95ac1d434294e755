import GraphBrowser.Proofs.Elements
import GraphBrowser.Proofs.Mirror
import Mathlib.Data.List.Induction

set_option autoImplicit false

namespace GraphBrowser

def Connector.ends (c : Connector) : Nat × Nat := (c.source, c.target)

namespace Explorer

variable {α : Type} [Coordinate α]

theorem act_draws (x y : Explorer α (Scene α) Nat) (act : Act x y) :
    ∃ drawn, y.surface.connectors = x.surface.connectors ++ drawn := by
  cases act with
  | reveal id => exact ⟨[], by rw [List.append_nil]; exact Scene.revealed_connectors x.surface x.nodes id⟩
  | join s d =>
      rcases join_cases x s d with idle | ⟨source, destination, link, _, _, _, _, _, _, joined⟩
      · rw [idle]
        exact ⟨[], (List.append_nil _).symm⟩
      · rw [joined]
        exact ⟨[⟨source.element, destination.element, link.label⟩], rfl⟩
  | move element offset =>
      exact ⟨[], by rw [List.append_nil]; exact Scene.change_connectors x.surface element _⟩
  | note layout scatter pending failures issued => exact ⟨[], (List.append_nil _).symm⟩

theorem acts_draw (x y : Explorer α (Scene α) Nat) (acts : Acts x y) :
    ∃ drawn, y.surface.connectors = x.surface.connectors ++ drawn := by
  induction acts with
  | refl => exact ⟨[], (List.append_nil _).symm⟩
  | tail _ last ih =>
      obtain ⟨first, same⟩ := ih
      obtain ⟨more, next⟩ := act_draws _ _ last
      exact ⟨first ++ more, by rw [next, same, List.append_assoc]⟩

theorem attach_connectors (x : Explorer α (Scene α) Nat) (fragment : Fragment) :
    (x.attach fragment).2.surface.connectors = x.surface.connectors := by
  have wired (y : Explorer α (Scene α) Nat) (element : Nat) :
      (y.wire fragment.id element).surface.connectors = y.surface.connectors := by
    rw [wire]
    split
    next => rfl
    next => rfl
  have provided : (x.provide fragment.node).2.surface.connectors = x.surface.connectors := by
    cases found : x.nodes[fragment.node.id]? with
    | some node => rw [provide_known x fragment.node node found]
    | none =>
        rw [provide_fresh x fragment.node found]
        rfl
  exact (wired ((x.provide fragment.node).2.learn fragment.links) (x.provide fragment.node).1).trans provided

theorem growth_draws (x y : Explorer α (Scene α) Nat) (growth : Growth x y) :
    ∃ drawn, y.surface.connectors = x.surface.connectors ++ drawn := by
  cases growth with
  | acts _ steps => exact acts_draw x y steps
  | attach pending fragment _ after =>
      obtain ⟨drawn, same⟩ := acts_draw _ y after
      exact ⟨drawn, by rw [same, attach_connectors]⟩
  | hidden pending fragment _ =>
      refine ⟨[], ?_⟩
      rw [List.append_nil]
      exact (Scene.hidden_connectors _ _ fragment.id).trans (attach_connectors _ fragment)

-- New connectors are drawn after the others. Otherwise some are taken away, and the rest keep their order.
theorem perform_draws (x : Explorer α (Scene α) Nat) (op : Operation α Nat (Scene.Adjustment α)) :
    (∃ drawn, (x.perform op).surface.connectors = x.surface.connectors ++ drawn) ∨
      (x.perform op).surface.connectors.Sublist x.surface.connectors := by
  rcases perform_cases x op with growth | ⟨id, collapsed⟩ | ⟨change, adjusted⟩
  · exact .inl (growth_draws x _ growth)
  · right
    rw [collapsed]
    cases known : x.nodes[id]? with
    | none => rw [collapse_unknown x id known]
    | some node =>
        rw [collapsed_connectors x id node known]
        exact List.filter_sublist
  · left
    rw [adjusted]
    exact ⟨[], by rw [List.append_nil]; exact Scene.adjusted_connectors x.surface change⟩

theorem connectors_distinct (x : Explorer α (Scene α) Nat) (mirror : Mirror x) :
    (x.surface.connectors.map Connector.ends).Nodup := by
  rw [List.nodup_iff_count_le_one]
  intro ends
  by_cases met : ends ∈ x.surface.connectors.map Connector.ends
  · obtain ⟨c, member, rfl⟩ := List.mem_map.mp met
    obtain ⟨s, d, shown, source, target⟩ := mirror.linked c member
    have single := mirror.drawn s d
    rw [if_pos shown, between_joining x s d c.source c.target source target, Scene.joining,
      ← List.countP_eq_length_filter] at single
    rw [List.count, List.countP_map]
    refine Nat.le_of_eq (Eq.trans (List.countP_congr ?_) single)
    intro other _
    simp [Connector.ends]
  · rw [List.count_eq_zero_of_not_mem met]
    exact Nat.zero_le 1

def JoinedSince (x : Explorer α (Scene α) Nat) (ops : List (Operation α Nat (Scene.Adjustment α))) (c : Connector) :
    Prop :=
  ∀ done, done <+: ops → c.ends ∈ (x.run done).surface.connectors.map Connector.ends

def Outlasts (x : Explorer α (Scene α) Nat) (ops : List (Operation α Nat (Scene.Adjustment α))) (c d : Connector) :
    Prop :=
  ∀ before after, ops = before ++ after → JoinedSince (x.run before) after d → JoinedSince (x.run before) after c

theorem outlasts_snoc (x : Explorer α (Scene α) Nat) (ops : List (Operation α Nat (Scene.Adjustment α)))
    (op : Operation α Nat (Scene.Adjustment α)) (c d : Connector)
    (stands : c ∈ (x.run (ops ++ [op])).surface.connectors)
    (older : d.ends ∈ (x.run ops).surface.connectors.map Connector.ends → Outlasts x ops c d) :
    Outlasts x (ops ++ [op]) c d := by
  intro before after parts joined done started
  rcases List.eq_nil_or_concat after with rfl | ⟨earlier, last, rfl⟩
  · rw [List.prefix_nil.mp started, ← run_append, ← parts]
    exact List.mem_map_of_mem stands
  · rw [List.concat_eq_append, ← List.append_assoc] at parts
    obtain ⟨rfl, same⟩ := List.append_inj' parts rfl
    have sooner : ∀ done, done <+: earlier → done <+: earlier.concat last :=
      fun done begun => List.concat_eq_append ▸ begun.trans (List.prefix_append earlier [last])
    rw [List.concat_eq_append] at started
    rcases List.prefix_concat_iff.mp started with rfl | begun
    · rw [← run_append, ← List.append_assoc, ← parts]
      exact List.mem_map_of_mem stands
    · have met := joined earlier (sooner earlier List.prefix_rfl)
      rw [← run_append] at met
      exact older met before earlier rfl (fun done begun => joined done (sooner done begun)) done begun

theorem connectors_outlast (x : Explorer α (Scene α) Nat) (mirror : Mirror x)
    (ops : List (Operation α Nat (Scene.Adjustment α))) :
    (x.run ops).surface.connectors.Pairwise (Outlasts x ops) := by
  induction ops using List.reverseRecOn with
  | nil =>
      refine List.pairwise_of_forall_mem_list ?_
      intro c member d _ before after parts _ done started
      obtain ⟨rfl, rfl⟩ := List.append_eq_nil_iff.mp parts.symm
      rw [List.prefix_nil.mp started]
      exact List.mem_map_of_mem member
  | append_singleton ops op ih =>
      have distinct := connectors_distinct _ (run_keeps Mirror perform_mirror x (ops ++ [op]) mirror)
      rw [run_snoc] at distinct ⊢
      have grow (c d : Connector) (stands : c ∈ ((x.run ops).perform op).surface.connectors)
          (older : d.ends ∈ (x.run ops).surface.connectors.map Connector.ends → Outlasts x ops c d) :
          Outlasts x (ops ++ [op]) c d :=
        outlasts_snoc x ops op c d (by rwa [run_snoc]) older
      rcases perform_draws (x.run ops) op with ⟨drawn, same⟩ | fewer
      · rw [same] at distinct grow ⊢
        rw [List.map_append, List.nodup_append] at distinct
        have unmet : ∀ d ∈ drawn, d.ends ∉ (x.run ops).surface.connectors.map Connector.ends :=
          fun d member met => distinct.2.2 _ met _ (List.mem_map_of_mem member) rfl
        refine List.pairwise_append.mpr ⟨?_, ?_, ?_⟩
        · exact ih.imp_of_mem fun stands _ older =>
            grow _ _ (List.mem_append_left drawn stands) fun _ => older
        · refine List.pairwise_of_forall_mem_list fun c stands d member => ?_
          exact grow c d (List.mem_append_right _ stands) fun met => absurd met (unmet d member)
        · intro c stands d member
          exact grow c d (List.mem_append_left drawn stands) fun met => absurd met (unmet d member)
      · exact (ih.sublist fewer).imp_of_mem fun stands _ older => grow _ _ stands fun _ => older

def VisibleSince (x : Explorer α (Scene α) Nat) (ops : List (Operation α Nat (Scene.Adjustment α))) (l : Link) : Prop :=
  ∀ done, done <+: ops → (x.run done).links.isVisible l.source l.destination = true

-- Elements stay with their nodes, so at any earlier time two of them were joined just when the link between
-- their nodes was visible.
theorem joined_visible (x : Explorer α (Scene α) Nat) (mirror : Mirror x)
    (ops : List (Operation α Nat (Scene.Adjustment α))) (l : Link) (c : Connector)
    (source : (x.run ops).element? l.source = some c.source)
    (target : (x.run ops).element? l.destination = some c.target) :
    c.ends ∈ x.surface.connectors.map Connector.ends ↔ x.links.isVisible l.source l.destination = true := by
  have later := run_keeps Mirror perform_mirror x ops mirror
  constructor
  · intro met
    obtain ⟨other, member, same⟩ := List.mem_map.mp met
    obtain ⟨sameSource, sameTarget⟩ := Prod.mk.inj same
    obtain ⟨s, d, shown, foundSource, foundTarget⟩ := mirror.linked other member
    rw [sameSource] at foundSource
    rw [sameTarget] at foundTarget
    rw [element_unique _ later l.source s c.source source (run_element x ops s _ foundSource),
      element_unique _ later l.destination d c.target target (run_element x ops d _ foundTarget), shown]
  · intro shown
    obtain ⟨first, second, foundSource, foundTarget⟩ := visible_elements x mirror _ _ shown
    have sameSource := (run_element x ops _ _ foundSource).symm.trans source
    have sameTarget := (run_element x ops _ _ foundTarget).symm.trans target
    have single := mirror.drawn l.source l.destination
    rw [if_pos shown, between_joining x _ _ first second foundSource foundTarget] at single
    obtain ⟨other, joins⟩ := List.exists_mem_of_length_pos (single ▸ Nat.zero_lt_one)
    obtain ⟨member, ends⟩ := List.mem_filter.mp joins
    refine List.mem_map.mpr ⟨other, member, ?_⟩
    simp only [Bool.and_eq_true, beq_iff_eq] at ends
    rw [Connector.ends, ends.1, ends.2, Option.some.inj sameSource, Option.some.inj sameTarget]
    rfl

theorem outlasts_visible (x : Explorer α (Scene α) Nat) (mirror : Mirror x)
    (ops : List (Operation α Nat (Scene.Adjustment α))) (l m : Link) (c d : Connector)
    (lSource : (x.run ops).element? l.source = some c.source)
    (lTarget : (x.run ops).element? l.destination = some c.target)
    (mSource : (x.run ops).element? m.source = some d.source)
    (mTarget : (x.run ops).element? m.destination = some d.target) (outlasts : Outlasts x ops c d) :
    ∀ before after, ops = before ++ after → VisibleSince (x.run before) after m → VisibleSince (x.run before) after l := by
  intro before after parts visible
  subst parts
  have joined (done : List (Operation α Nat (Scene.Adjustment α))) (begun : done <+: after) (k : Link) (e : Connector)
      (source : (x.run (before ++ after)).element? k.source = some e.source)
      (target : (x.run (before ++ after)).element? k.destination = some e.target) :
      e.ends ∈ ((x.run before).run done).surface.connectors.map Connector.ends ↔
        ((x.run before).run done).links.isVisible k.source k.destination = true := by
    obtain ⟨rest, rfl⟩ := begun
    rw [← List.append_assoc, run_append] at source target
    rw [← run_append]
    exact joined_visible _ (run_keeps Mirror perform_mirror x (before ++ done) mirror) rest k e source target
  have stood := outlasts before after rfl fun done begun => (joined done begun m d mSource mTarget).mpr (visible done begun)
  exact fun done begun => (joined done begun l c lSource lTarget).mp (stood done begun)

end Explorer

end GraphBrowser
