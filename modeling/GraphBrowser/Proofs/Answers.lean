import GraphBrowser.Proofs.Askers
import GraphBrowser.Proofs.VisibleLinks

set_option autoImplicit false

namespace GraphBrowser

structure Answer where
  ticket : Ticket
  result : FetchResult

def Accepted (answers : List Answer) (fragment : Fragment) : Prop :=
  ∃ a ∈ answers, a.result = .ok fragment ∧ fragment.id = a.ticket.node

theorem accepted_append (first second : List Answer) (fragment : Fragment) :
    Accepted (first ++ second) fragment ↔ Accepted first fragment ∨ Accepted second fragment := by
  simp only [Accepted, List.mem_append, or_and_right, exists_or]

namespace LinkTable

theorem drawn_names (t u : LinkTable) (f : String → String → Bool) (drawn : t.Drawn u f) (s d : String) :
    u.names s d = t.names s d := by
  rw [names, drawn, names]
  cases t.get? s d <;> rfl

end LinkTable

namespace Explorer

theorem learned_names (t : LinkTable) (triples : List LinkTriple) (s d name : String) :
    name ∈ (learned t triples).names s d ↔ name ∈ t.names s d ∨ ⟨s, d, name⟩ ∈ triples := by
  induction triples generalizing t with
  | nil => simp [learned]
  | cons l rest ih =>
      have step := ih (t.register l.source l.destination l.name).2
      rw [LinkTable.register_names] at step
      refine step.trans ?_
      rw [List.mem_cons]
      cases l with
      | mk source destination other =>
          by_cases here : s = source ∧ d = destination
          · obtain ⟨rfl, rfl⟩ := here
            by_cases known : other ∈ t.names s d
            · by_cases same : name = other
              · simp [known, same]
              · simp [known, same]
            · simp [known, or_assoc]
          · have elsewhere : ¬ (⟨s, d, name⟩ : LinkTriple) = ⟨source, destination, other⟩ := by
              intro same
              exact here ⟨congrArg LinkTriple.source same, congrArg LinkTriple.destination same⟩
            simp [here, elsewhere]

variable {α σ ε : Type} [Coordinate α]

def face (node : Node ε) : Option String × Bool := (node.label, node.visible)

-- What answers do that are for nodes not known yet. It takes no order to say it.
structure Answered (x : Explorer α σ ε) (answers : List Answer) (y : Explorer α σ ε) : Prop where
  nodes : ∀ f, Accepted answers f → (y.nodes[f.id]?).map face = some (f.node.label, awaited x.nodes (x.askers f.id))
  others : ∀ id, (∀ f, Accepted answers f → f.id ≠ id) → y.nodes[id]? = x.nodes[id]?
  visible : ∀ s d, y.links.isVisible s d = true ↔ x.links.isVisible s d = true ∨
    ∃ f, Accepted answers f ∧ drawsFor x.nodes f.id (x.askers f.id) s d = true
  names : ∀ s d name, name ∈ y.links.names s d ↔ name ∈ x.links.names s d ∨
    ∃ f, Accepted answers f ∧ ⟨s, d, name⟩ ∈ f.links
  pending : ∀ id, y.pending[id]? = if id ∈ answers.map (·.ticket.node) then none else x.pending[id]?
  refused : ∀ a ∈ answers, ∀ failure, refusal a.ticket.node a.result = some failure →
    y.failures[a.ticket.node]? = some failure
  spared : ∀ id, (∀ a ∈ answers, a.ticket.node = id → refusal a.ticket.node a.result = none) →
    y.failures[id]? = x.failures[id]?

structure Ready (x : Explorer α σ ε) (answers : List Answer) : Prop where
  founded : Founded x
  ends : EndsShown x
  live : ∀ a ∈ answers, x.Live a.ticket
  fresh : ∀ a ∈ answers, x.nodes[a.ticket.node]? = none
  apart : (answers.map (·.ticket.node)).Nodup

def foreseen (x : Explorer α σ ε) (a : Answer) : Outcome :=
  match refusal a.ticket.node a.result with
  | some _ => .failed
  | none => .attached ((x.askers a.ticket.node).countP fun asker => x.nodes.isVisible asker.anchor)

theorem refusal_accepted (answers : List Answer) (f : Fragment) (accepted : Accepted answers f) :
    ∃ a ∈ answers, a.ticket.node = f.id ∧ refusal a.ticket.node a.result = none := by
  obtain ⟨a, member, result, id⟩ := accepted
  exact ⟨a, member, id.symm, by simp [refusal, result, id]⟩

theorem unknown_link_hidden (x : Explorer α σ ε) (ends : EndsShown x) (a : Asker) (id : String)
    (fresh : x.nodes[id]? = none) : x.links.isVisible (a.ends id).1 (a.ends id).2 = false := by
  cases shown : x.links.isVisible (a.ends id).1 (a.ends id).2 with
  | false => rfl
  | true =>
      have both := ends _ _ shown
      have visible := ends_visible x.nodes a id
      rw [both.1, both.2] at visible
      simp [NodeTable.isVisible, fresh] at visible

theorem answered_nil (x : Explorer α σ ε) : Answered x [] x := by
  have nothing (f : Fragment) : ¬ Accepted [] f := by
    intro ⟨a, member, _⟩
    cases member
  refine ⟨?_, fun _ _ => rfl, ?_, ?_, ?_, ?_, fun _ _ => rfl⟩
  · intro f accepted
    exact absurd accepted (nothing f)
  · intro s d
    simp [nothing]
  · intro s d name
    simp [nothing]
  · intro id
    rw [List.map_nil, if_neg List.not_mem_nil]
  · intro a member
    cases member

theorem answered_askers (x y : Explorer α σ ε) (first second : List Answer) (answered : Answered x first y)
    (ready : Ready x (first ++ second)) (a : Answer) (later : a ∈ second) :
    y.pending[a.ticket.node]? = x.pending[a.ticket.node]? ∧
      ∀ k ∈ x.askers a.ticket.node, y.nodes.isVisible k.anchor = x.nodes.isVisible k.anchor := by
  have apart := ready.apart
  rw [List.map_append, List.nodup_append] at apart
  constructor
  · rw [answered.pending, if_neg]
    intro member
    exact apart.2.2 _ member _ (List.mem_map_of_mem later) rfl
  · intro k member
    apply NodeTable.visible_congr
    apply answered.others
    intro f accepted same
    -- Anchors are known, and no answer in the list is for a known node.
    have known := ((founded_askers x ready.founded a.ticket.node).2 k member).anchor
    obtain ⟨b, listed, node, _⟩ := refusal_accepted first f accepted
    rw [← same, ← node, ready.fresh b (List.mem_append_left second listed)] at known
    cases known

theorem answered_append (x y z : Explorer α σ ε) (first second : List Answer) (ready : Ready x (first ++ second))
    (before : Answered x first y) (after : Answered y second z) : Answered x (first ++ second) z := by
  have kept := answered_askers x y first second before ready
  have apart := ready.apart
  rw [List.map_append, List.nodup_append] at apart
  have foreign (f : Fragment) (accepted : Accepted second f) (id : String) (inFirst : id ∈ first.map (·.ticket.node)) :
      f.id ≠ id := by
    intro same
    obtain ⟨b, listed, node, _⟩ := refusal_accepted second f accepted
    exact apart.2.2 id inFirst b.ticket.node (List.mem_map_of_mem listed) (by rw [node, same])
  have waiting (f : Fragment) (accepted : Accepted second f) : y.askers f.id = x.askers f.id ∧
      ∀ k ∈ x.askers f.id, y.nodes.isVisible k.anchor = x.nodes.isVisible k.anchor := by
    obtain ⟨b, listed, node, _⟩ := refusal_accepted second f accepted
    obtain ⟨pending, anchors⟩ := kept b listed
    rw [node] at pending anchors
    exact ⟨askers_congr x y f.id pending, anchors⟩
  refine ⟨?_, ?_, ?_, ?_, ?_, ?_, ?_⟩
  · intro f accepted
    by_cases later : Accepted second f
    · obtain ⟨askers, anchors⟩ := waiting f later
      rw [after.nodes f later, askers, awaited_congr _ _ _ anchors]
    · have earlier := ((accepted_append first second f).mp accepted).resolve_right later
      obtain ⟨b, listed, node, _⟩ := refusal_accepted first f earlier
      rw [after.others f.id, before.nodes f earlier]
      intro g acceptedLater
      exact foreign g acceptedLater f.id (node ▸ List.mem_map_of_mem listed)
  · intro id other
    rw [after.others id fun f accepted => other f ((accepted_append first second f).mpr (.inr accepted)),
      before.others id fun f accepted => other f ((accepted_append first second f).mpr (.inl accepted))]
  · intro s d
    rw [after.visible, before.visible, or_assoc]
    apply or_congr_right
    simp only [accepted_append, or_and_right, exists_or]
    apply or_congr_right
    apply exists_congr
    intro f
    apply and_congr_right
    intro later
    obtain ⟨askers, anchors⟩ := waiting f later
    rw [askers, draws_for_congr _ _ f.id _ anchors]
  · intro s d name
    rw [after.names, before.names, or_assoc]
    simp only [accepted_append, or_and_right, exists_or]
  · intro id
    rw [after.pending, before.pending, List.map_append]
    by_cases inFirst : id ∈ first.map (·.ticket.node)
    · simp [inFirst]
    · simp [inFirst]
  · intro a member failure refused
    cases List.mem_append.mp member with
    | inr later => exact after.refused a later failure refused
    | inl earlier =>
        rw [after.spared, before.refused a earlier failure refused]
        intro b listed same
        have both := apart.2.2 _ (List.mem_map_of_mem earlier) _ (List.mem_map_of_mem listed)
        exact absurd same.symm both
  · intro id unheld
    rw [after.spared id fun a listed => unheld a (List.mem_append_right first listed),
      before.spared id fun a listed => unheld a (List.mem_append_left second listed)]

variable [Surface σ α ε]

theorem attached_label (x : Explorer α σ ε) (f : Fragment) (fresh : x.nodes[f.id]? = none) :
    (x.attached f).label = f.node.label := by
  simp only [attached, fresh]

variable [DecidableEq ε]

theorem growth_linked (x y : Explorer α σ ε) (growth : Growth x y) (id : String) (a : Asker) (linked : Linked x id a) :
    Linked y id a :=
  ⟨linked.apart, growth_known x y growth a.anchor linked.anchor,
    LinkTable.edits_known _ _ (growth_edits x y growth) _ _ linked.link⟩

theorem refused_answered (x : Explorer α σ ε) (a : Answer) (live : x.Live a.ticket) (failure : Failure)
    (refused : refusal a.ticket.node a.result = some failure) :
    Answered x [a] (x.redeem a.ticket a.result).2 ∧ (x.redeem a.ticket a.result).1 = foreseen x a := by
  have nothing (f : Fragment) : ¬ Accepted [a] f := by
    intro accepted
    obtain ⟨b, member, _, unheld⟩ := refusal_accepted [a] f accepted
    rw [List.mem_singleton.mp member, refused] at unheld
    cases unheld
  rw [redeem_refused x a.ticket a.result failure live refused]
  refine ⟨⟨?_, ?_, ?_, ?_, ?_, ?_, ?_⟩, by simp only [foreseen, refused]⟩
  · intro f accepted
    exact absurd accepted (nothing f)
  · intro id _
    rfl
  · intro s d
    simp [nothing]
  · intro s d name
    simp [nothing]
  · intro id
    rw [IdMap.erase_get]
    simp
  · intro b member held heldRefused
    rw [List.mem_singleton.mp member, refused] at heldRefused
    rw [List.mem_singleton.mp member, IdMap.insert_get, if_pos rfl, heldRefused]
  · intro id unheld
    have other : id ≠ a.ticket.node := by
      intro same
      have unheldHere := unheld a List.mem_cons_self same.symm
      rw [refused] at unheldHere
      cases unheldHere
    rw [IdMap.insert_get, if_neg other]

theorem accepted_answered (x : Explorer α σ ε) (a : Answer) (ready : Ready x [a])
    (accepted : refusal a.ticket.node a.result = none) :
    Answered x [a] (x.redeem a.ticket a.result).2 ∧ (x.redeem a.ticket a.result).1 = foreseen x a := by
  obtain ⟨f, result, id⟩ := accepted_refusal a.ticket.node a.result accepted
  have fresh := ready.fresh a List.mem_cons_self
  obtain ⟨distinct, linked⟩ := founded_askers x ready.founded a.ticket.node
  obtain ⟨connected, outcome, arrived, books⟩ := redeem_arrived x a.ticket f (ready.live a List.mem_cons_self) id
    fun k member => (linked k member).apart
  have only (g : Fragment) : Accepted [a] g ↔ g = f := by
    simp only [Accepted, List.mem_singleton, exists_eq_left, result, Except.ok.injEq]
    constructor
    · intro same
      exact same.1.symm
    · intro same
      exact ⟨same.symm, by rw [same, id]⟩
  have told : foreseen x a = .attached ((x.askers f.id).countP fun k => x.nodes.isVisible k.anchor) := by
    rw [foreseen, accepted, id]
  rw [told, result]
  rw [← id] at fresh linked distinct arrived
  have hidden : x.nodes.isVisible f.id = false := by
    rw [NodeTable.isVisible, fresh]
    rfl
  refine ⟨⟨?_, ?_, ?_, ?_, ?_, ?_, ?_⟩, ?_⟩
  · intro g accepted
    rw [(only g).mp accepted, arrived.node, Option.map_some, face, attached_label x f fresh, hidden, Bool.or_false]
  · intro key other
    exact arrived.others key (other f ((only f).mpr rfl)).symm
  · intro s d
    rw [LinkTable.drawn_visible _ _ _ arrived.links, learned_visible, Bool.or_eq_true, Bool.and_eq_true]
    apply or_congr_right
    simp only [only, exists_eq_left]
    refine and_iff_right_of_imp ?_
    intro drawn
    -- What is drawn for an asker is the link that it asked along.
    rw [drawsFor, List.any_eq_true] at drawn
    obtain ⟨k, member, drawn⟩ := drawn
    rw [Bool.and_eq_true, beq_iff_eq] at drawn
    have known := learned_known x.links f.links _ _ (linked k member).link
    rwa [← drawn.2] at known
  · intro s d name
    rw [LinkTable.drawn_names _ _ _ arrived.links, learned_names]
    simp only [only, exists_eq_left]
  · intro key
    rw [(Prod.mk.inj books).1, IdMap.erase_get]
    simp
  · intro b member failure held
    rw [List.mem_singleton.mp member, accepted] at held
    cases held
  · intro key _
    rw [(Prod.mk.inj (Prod.mk.inj books).2).1]
  · rw [outcome, arrived.count distinct fun k member => (linked k member).link]
    congr 1
    apply List.countP_congr
    intro k _
    simp [unknown_link_hidden x ready.ends k f.id fresh]

theorem redeem_answered (x : Explorer α σ ε) (a : Answer) (ready : Ready x [a]) :
    Answered x [a] (x.redeem a.ticket a.result).2 ∧ (x.redeem a.ticket a.result).1 = foreseen x a := by
  cases refused : refusal a.ticket.node a.result with
  | some failure => exact refused_answered x a (ready.live a List.mem_cons_self) failure refused
  | none => exact accepted_answered x a ready refused

end Explorer

end GraphBrowser
