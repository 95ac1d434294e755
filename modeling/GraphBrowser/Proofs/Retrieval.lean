import GraphBrowser.Proofs.Surveying

set_option autoImplicit false

namespace GraphBrowser.Explorer

variable {α σ ε : Type} [Coordinate α]

structure Welcomed (x y : Explorer α σ ε) (f : Fragment) : Prop where
  known : ∀ id : String, y.nodes[id]?.isSome = true ↔ x.nodes[id]?.isSome = true ∨ id = f.id
  visible : ∀ id, x.nodes.isVisible id = true ∨ id = f.id → y.nodes.isVisible id = true
  pairs : ∀ s d, (y.links.get? s d).isSome = true ↔ (x.links.get? s d).isSome = true ∨ f.Lists s d
  kept : ∀ s d, x.links.isVisible s d = true → y.links.isVisible s d = true
  joined : ∀ a ∈ x.askers f.id, x.nodes.isVisible a.anchor = true →
    (x.links.get? (a.ends f.id).1 (a.ends f.id).2).isSome = true →
    y.links.isVisible (a.ends f.id).1 (a.ends f.id).2 = true
  pending : ∀ id : String, y.pending[id]? = if id = f.id then none else x.pending[id]?
  failures : y.failures = x.failures

variable {data : Collection} {directions : Set Direction} {root : String}

-- No node that was expanded gets a new neighbour, since its own fragment lists all its links.
theorem welcomed_exhausted (x y : Explorer α σ ε) (outstanding : List Ticket) (f : Fragment)
    (surveyed : Surveyed data directions root x outstanding) (listed : root ∈ data) (consistent : data.Consistent)
    (found : data[f.id]? = some f) (welcomed : Welcomed x y f) (a : Asker) (known : x.nodes[a.anchor]?.isSome = true)
    (exhausted : Exhausted data x a) : Exhausted data y a := by
  intro neighbor member
  have before : neighbor ∈ x.neighbors a.anchor a.direction := by
    rw [mem_neighbors, welcomed.pairs] at member
    rw [surveyed_neighbors surveyed listed consistent a known]
    cases member with
    | inl old =>
        obtain ⟨id, g, _, foundToo, lists⟩ := (surveyed.links _ _).mp old
        exact ⟨id, g, foundToo, lists⟩
    | inr new => exact ⟨f.id, f, found, new⟩
  have spared (other : neighbor ≠ f.id) : y.pending[neighbor]? = x.pending[neighbor]? := by
    rw [welcomed.pending, if_neg other]
  rcases exhausted neighbor before with ⟨shown, drawn⟩ | waits | ⟨missing, held⟩
  · exact .inl ⟨welcomed.visible neighbor (.inl shown), welcomed.kept _ _ drawn⟩
  · by_cases here : neighbor = f.id
    · subst here
      exact .inl ⟨welcomed.visible f.id (.inr rfl),
        welcomed.joined a waits (surveyed.shown a.anchor known) ((mem_neighbors x a f.id).mp before)⟩
    · refine .inr (.inl ?_)
      rw [askers_congr x y neighbor (spared here)]
      exact waits
  · have other : neighbor ≠ f.id := by
      intro here
      rw [here, found] at missing
      cases missing
    refine .inr (.inr ⟨missing, ?_⟩)
    rw [spared other, welcomed.failures]
    exact held

variable [Surface σ α ε] [DecidableEq ε]

-- The ticket's node has no fragment. Whoever asked for it has it among the missing.
theorem missing_surveyed (x : Explorer α σ ε) (before after : List Ticket) (ticket : Ticket)
    (surveyed : Surveyed data directions root x (before ++ ticket :: after)) (missing : data[ticket.node]? = none) :
    Surveyed data directions root (x.redeem ticket (data.fetch ticket.node)).2 (before ++ after) ∧
      (x.redeem ticket (data.fetch ticket.node)).2.nodes = x.nodes ∧
      ∀ a, Exhausted data x a → Exhausted data (x.redeem ticket (data.fetch ticket.node)).2 a := by
  obtain ⟨live, wanted, _⟩ := surveyed_ticket surveyed ticket (List.mem_append_right before List.mem_cons_self)
  have unanswered : data.fetch ticket.node = .error (.notFound ticket.node) := by
    simp only [Collection.fetch, missing]
  have refused := redeem_refused x ticket (data.fetch ticket.node) (.fetch ticket.node (.notFound ticket.node)) live
    (by rw [unanswered]; rfl)
  have ledger := redeem_settled x before after ticket (data.fetch ticket.node) surveyed.ledger (by simp [refused])
  rw [refused] at ledger ⊢
  refine ⟨⟨ledger, ?_, surveyed.ends, surveyed.rooted, surveyed.shown, surveyed.reached, surveyed.links, ?_, ?_⟩, rfl, ?_⟩
  · intro id fetch found
    rw [IdMap.erase_get] at found
    split at found
    next => cases found
    next =>
      obtain ⟨distinct, linked⟩ := surveyed.founded id fetch found
      exact ⟨distinct, fun a member => ⟨(linked a member).apart, (linked a member).anchor, (linked a member).link⟩⟩
  · intro id pending
    rw [IdMap.erase_get] at pending
    split at pending
    next => cases pending
    next other =>
      have waiting : askers { x with
          pending := x.pending.erase ticket.node
          failures := x.failures.insert ticket.node (.fetch ticket.node (.notFound ticket.node)) } id = x.askers id :=
        askers_congr x _ id ((IdMap.erase_get _ _ _).trans (if_neg other))
      rw [waiting]
      exact surveyed.sought id pending
  · intro id failure held
    rw [IdMap.insert_get] at held
    split at held
    next here =>
      subst here
      exact ⟨(Option.some.inj held).symm, missing, surveyed_asker surveyed ticket.node wanted⟩
    next => exact surveyed.missed id failure held
  · intro a exhausted neighbor member
    by_cases here : neighbor = ticket.node
    · subst here
      refine .inr (.inr ⟨missing, .inr ?_⟩)
      rw [IdMap.insert_get, if_pos rfl]
    · have pending : (x.pending.erase ticket.node)[neighbor]? = x.pending[neighbor]? :=
        (IdMap.erase_get _ _ _).trans (if_neg here)
      rcases exhausted neighbor member with shown | waits | ⟨absent, held⟩
      · exact .inl shown
      · refine .inr (.inl ?_)
        rw [askers_congr x _ neighbor pending]
        exact waits
      · refine .inr (.inr ⟨absent, ?_⟩)
        rw [pending, IdMap.insert_get, if_neg here]
        exact held

theorem redeem_welcomed (x : Explorer α σ ε) (f : Fragment) (serial : Nat) (live : x.Live ⟨f.id, serial⟩)
    (linked : ∀ a ∈ x.askers f.id, Linked x f.id a) (waits : awaited x.nodes (x.askers f.id) = true) :
    (x.redeem ⟨f.id, serial⟩ (.ok f)).1 ≠ .stale ∧ Welcomed x (x.redeem ⟨f.id, serial⟩ (.ok f)).2 f := by
  obtain ⟨connected, outcome, arrived, books⟩ :=
    redeem_arrived x ⟨f.id, serial⟩ f live rfl fun a member => (linked a member).apart
  generalize x.redeem ⟨f.id, serial⟩ (.ok f) = result at *
  obtain ⟨pending, rest⟩ := Prod.mk.inj books
  refine ⟨by rw [outcome]; exact Outcome.noConfusion, ?_, ?_, ?_, ?_, ?_, ?_, (Prod.mk.inj rest).1⟩
  · intro id
    by_cases here : id = f.id
    · simp [here, arrived.node]
    · simp [here, arrived.others id here]
  · intro id either
    by_cases here : id = f.id
    · rw [here, NodeTable.isVisible, arrived.node, waits]
      rfl
    · rw [NodeTable.visible_congr _ _ id (arrived.others id here), either.resolve_right here]
  · intro s d
    rw [LinkTable.drawn_known _ _ _ arrived.links, learned_pairs]
  · intro s d shown
    rw [LinkTable.drawn_visible _ _ _ arrived.links, learned_visible, shown, Bool.true_or]
  · intro a member shown known
    have drawn : drawsFor x.nodes f.id (x.askers f.id) (a.ends f.id).1 (a.ends f.id).2 = true := by
      rw [drawsFor, List.any_eq_true]
      exact ⟨a, member, by simp [shown]⟩
    rw [LinkTable.drawn_visible _ _ _ arrived.links, drawn, learned_known x.links f.links _ _ known, Bool.and_true,
      Bool.or_true]
  · intro id
    rw [pending, IdMap.erase_get]

theorem welcomed_surveyed (x y : Explorer α σ ε) (outstanding rest : List Ticket) (f : Fragment)
    (surveyed : Surveyed data directions root x outstanding) (found : data[f.id]? = some f)
    (wanted : x.pending[f.id]?.isSome = true) (growth : Growth x y) (welcomed : Welcomed x y f)
    (ledger : Ledger y rest []) : Surveyed data directions root y rest := by
  have pendingBefore (id : String) (fetch : Pending) (under : y.pending[id]? = some fetch) :
      id ≠ f.id ∧ x.pending[id]? = some fetch := by
    rw [welcomed.pending] at under
    split at under
    next => cases under
    next other => exact ⟨other, under⟩
  refine ⟨ledger, ?_, growth_ends_shown x y growth surveyed.ends, ?_, ?_, ?_, ?_, ?_, ?_⟩
  · intro id fetch under
    obtain ⟨distinct, linked⟩ := surveyed.founded id fetch (pendingBefore id fetch under).2
    exact ⟨distinct, fun a member => growth_linked x y growth id a (linked a member)⟩
  · exact (welcomed.known root).mpr (.inl surveyed.rooted)
  · intro id known
    exact welcomed.visible id (((welcomed.known id).mp known).imp_left (surveyed.shown id))
  · intro id known
    cases (welcomed.known id).mp known with
    | inl old => exact surveyed.reached id old
    | inr new =>
        obtain ⟨n, knownToo, adjoins⟩ := surveyed_asker surveyed f.id wanted
        rw [new]
        exact .tail (surveyed.reached n knownToo) ⟨adjoins, (IdMap.mem_iff data f.id).mpr ⟨f, found⟩⟩
  · intro s d
    rw [welcomed.pairs, surveyed.links]
    simp only [welcomed.known]
    constructor
    · intro either
      cases either with
      | inl old =>
          obtain ⟨id, g, known, foundToo, lists⟩ := old
          exact ⟨id, g, .inl known, foundToo, lists⟩
      | inr new => exact ⟨f.id, f, .inr rfl, found, new⟩
    · intro ⟨id, g, either, foundToo, lists⟩
      cases either with
      | inl old => exact .inl ⟨id, g, old, foundToo, lists⟩
      | inr new =>
          rw [new, found] at foundToo
          exact .inr (Option.some.inj foundToo ▸ lists)
  · intro id under
    obtain ⟨fetch, foundFetch⟩ := Option.isSome_iff_exists.mp under
    obtain ⟨other, before⟩ := pendingBefore id fetch foundFetch
    obtain ⟨fresh, asked⟩ := surveyed.sought id (by rw [before]; rfl)
    refine ⟨?_, ?_⟩
    · rw [← Option.not_isSome_iff_eq_none, welcomed.known, fresh]
      simp [other]
    · rw [askers_congr x y id (foundFetch.trans before.symm)]
      exact asked
  · intro id failure held
    rw [welcomed.failures] at held
    obtain ⟨notFound, missing, n, known, adjoins⟩ := surveyed.missed id failure held
    exact ⟨notFound, missing, n, (welcomed.known n).mpr (.inl known), adjoins⟩

-- The ticket's node has a fragment. It is shown, since all nodes are that may have asked for it.
theorem listed_surveyed (x : Explorer α σ ε) (before after : List Ticket) (ticket : Ticket) (f : Fragment)
    (surveyed : Surveyed data directions root x (before ++ ticket :: after)) (listed : root ∈ data)
    (consistent : data.Consistent) (found : data[ticket.node]? = some f) (same : f.id = ticket.node) :
    Surveyed data directions root (x.redeem ticket (data.fetch ticket.node)).2 (before ++ after) ∧
      (∀ id : String, (x.redeem ticket (data.fetch ticket.node)).2.nodes[id]?.isSome = true ↔
        x.nodes[id]?.isSome = true ∨ id = ticket.node) ∧
      ∀ a, x.nodes[a.anchor]?.isSome = true → Exhausted data x a →
        Exhausted data (x.redeem ticket (data.fetch ticket.node)).2 a := by
  have answered : data.fetch ticket.node = .ok f := by simp only [Collection.fetch, found]
  rw [answered]
  obtain ⟨node, serial⟩ := ticket
  subst same
  obtain ⟨live, wanted, _⟩ := surveyed_ticket surveyed _ (List.mem_append_right before List.mem_cons_self)
  have linked := (founded_askers x surveyed.founded f.id).2
  obtain ⟨_, one, waits, _⟩ := surveyed.sought f.id wanted
  have seen : awaited x.nodes (x.askers f.id) = true :=
    List.any_eq_true.mpr ⟨one, waits, surveyed.shown one.anchor (linked one waits).anchor⟩
  obtain ⟨outcome, welcomed⟩ := redeem_welcomed x f serial live linked seen
  have ledger := redeem_settled x before after ⟨f.id, serial⟩ (.ok f) surveyed.ledger outcome
  exact ⟨welcomed_surveyed x _ _ _ f surveyed found wanted (redeem_growth x ⟨f.id, serial⟩ (.ok f)) welcomed ledger,
    welcomed.known, fun a known => welcomed_exhausted x _ _ f surveyed listed consistent found welcomed a known⟩

end GraphBrowser.Explorer
