import GraphBrowser.Proofs.Answers
import GraphBrowser.Proofs.DataSet

set_option autoImplicit false

namespace GraphBrowser.Explorer

theorem learned_pairs (t : LinkTable) (f : Fragment) (s d : String) :
    ((learned t f.links).get? s d).isSome = true ↔ (t.get? s d).isSome = true ∨ f.Lists s d := by
  unfold Fragment.Lists
  induction f.links generalizing t with
  | nil => simp [learned]
  | cons l rest ih =>
      refine (ih (t.register l.source l.destination l.name).2).trans ?_
      rw [LinkTable.register_get]
      by_cases here : l.source = s ∧ l.destination = d
      · obtain ⟨rfl, rfl⟩ := here
        simp
      · have elsewhere : ¬ (s = l.source ∧ d = l.destination) := fun same => here ⟨same.1.symm, same.2.symm⟩
        simp [here, elsewhere]

variable {α σ ε : Type} [Coordinate α]

def Handled (data : Collection) (x : Explorer α σ ε) (a : Asker) (neighbor : String) : Prop :=
  (x.nodes.isVisible neighbor = true ∧ x.links.isVisible (a.ends neighbor).1 (a.ends neighbor).2 = true) ∨
    a ∈ x.askers neighbor ∨
    data[neighbor]? = none ∧ (x.pending[neighbor]?.isSome = true ∨
      x.failures[neighbor]? = some (.fetch neighbor (.notFound neighbor)))

def Exhausted (data : Collection) (x : Explorer α σ ε) (a : Asker) : Prop :=
  ∀ neighbor ∈ x.neighbors a.anchor a.direction, Handled data x a neighbor

structure Surveyed (data : Collection) (directions : Set Direction) (root : String) (x : Explorer α σ ε)
    (outstanding : List Ticket) : Prop where
  ledger : Ledger x outstanding []
  founded : Founded x
  ends : EndsShown x
  rooted : x.nodes[root]?.isSome = true
  shown : ∀ id : String, x.nodes[id]?.isSome = true → x.nodes.isVisible id = true
  reached : ∀ id : String, x.nodes[id]?.isSome = true → data.Reaches directions root id
  links : ∀ s d, (x.links.get? s d).isSome = true ↔
    ∃ (id : String) (f : Fragment), x.nodes[id]?.isSome = true ∧ data[id]? = some f ∧ f.Lists s d
  sought : ∀ id : String, x.pending[id]?.isSome = true →
    x.nodes[id]? = none ∧ ∃ a ∈ x.askers id, a.direction ∈ directions
  missed : ∀ (id : String) (failure : Failure), x.failures[id]? = some failure →
    failure = .fetch id (.notFound id) ∧ data[id]? = none ∧
      ∃ n : String, x.nodes[n]?.isSome = true ∧ data.Adjoins directions n id

section Facts

variable {data : Collection} {directions : Set Direction} {root : String} {x : Explorer α σ ε} {outstanding : List Ticket}

theorem surveyed_listed (surveyed : Surveyed data directions root x outstanding) (listed : root ∈ data) (id : String)
    (known : x.nodes[id]?.isSome = true) : ∃ f, data[id]? = some f :=
  (IdMap.mem_iff data id).mp (Collection.reaches_listed data directions root id listed (surveyed.reached id known))

-- All links of a known node are known, since its own fragment lists them.
theorem surveyed_neighbors (surveyed : Surveyed data directions root x outstanding) (listed : root ∈ data)
    (consistent : data.Consistent) (a : Asker) (known : x.nodes[a.anchor]?.isSome = true) (neighbor : String) :
    neighbor ∈ x.neighbors a.anchor a.direction ↔ data.Links (a.ends neighbor).1 (a.ends neighbor).2 := by
  rw [mem_neighbors, surveyed.links]
  constructor
  · intro ⟨id, f, _, found, lists⟩
    exact ⟨id, f, found, lists⟩
  · intro links
    obtain ⟨f, found⟩ := surveyed_listed surveyed listed a.anchor known
    refine ⟨a.anchor, f, known, found, consistent _ _ links f ?_⟩
    cases a with
    | mk anchor direction =>
        cases direction with
        | outbound => exact .inl found
        | inbound => exact .inr found

theorem surveyed_ticket (surveyed : Surveyed data directions root x outstanding) (ticket : Ticket)
    (member : ticket ∈ outstanding) :
    x.Live ticket ∧ x.pending[ticket.node]?.isSome = true ∧ x.nodes[ticket.node]? = none := by
  have live := (surveyed.ledger.open_iff ticket).mpr ⟨member, List.not_mem_nil⟩
  obtain ⟨fetch, found, _⟩ := Option.map_eq_some_iff.mp live
  have pending : x.pending[ticket.node]?.isSome = true := by
    rw [found]
    rfl
  exact ⟨live, pending, (surveyed.sought ticket.node pending).1⟩

theorem surveyed_asker (surveyed : Surveyed data directions root x outstanding) (id : String)
    (pending : x.pending[id]?.isSome = true) :
    ∃ n : String, x.nodes[n]?.isSome = true ∧ data.Adjoins directions n id := by
  obtain ⟨a, waits, turned⟩ := (surveyed.sought id pending).2
  have linked := (founded_askers x surveyed.founded id).2 a waits
  obtain ⟨key, f, _, found, lists⟩ := (surveyed.links _ _).mp linked.link
  exact ⟨a.anchor, linked.anchor, a.direction, turned, key, f, found, lists⟩

end Facts

theorem expanded_handled (data : Collection) (x y : Explorer α σ ε) (asker : Asker) (neighbors : List String)
    (expanded : Expanded x asker neighbors y) (a : Asker) (neighbor : String) (handled : Handled data x a neighbor) :
    Handled data y a neighbor := by
  have books := expanded_books x y asker neighbors expanded neighbor
  rcases handled with ⟨shown, drawn⟩ | waits | ⟨missing, held⟩
  · refine .inl ⟨expanded_visible x y asker neighbors expanded neighbor shown, ?_⟩
    rw [LinkTable.drawn_visible _ _ _ expanded.links, drawn, Bool.true_or]
  · refine .inr (.inl ?_)
    rcases books with ⟨_, _, _, waiting⟩ | ⟨_, pending, _⟩
    · exact (waiting a).mpr (.inl waits)
    · rw [askers_congr x y neighbor pending]
      exact waits
  · refine .inr (.inr ⟨missing, ?_⟩)
    rcases books with ⟨_, pending, _, _⟩ | ⟨_, pending, failures⟩
    · exact .inl pending
    · rw [pending, failures]
      exact held

theorem expanded_exhausted (data : Collection) (x y : Explorer α σ ε) (asker : Asker) (neighbors : List String)
    (expanded : Expanded x asker neighbors y) (a : Asker) (exhausted : Exhausted data x a) : Exhausted data y a := by
  intro neighbor member
  have before := (expanded_neighbors x y asker neighbors expanded a neighbor).mp member
  exact expanded_handled data x y asker neighbors expanded a neighbor (exhausted neighbor before)

variable [Surface σ α ε]

theorem expand_exhausts (data : Collection) (x : Explorer α σ ε) (asker : Asker)
    (shown : x.nodes.isVisible asker.anchor = true) :
    Exhausted data (x.expand asker.anchor asker.direction).2 asker := by
  have expanded := expand_shown x asker.anchor asker.direction shown
  intro neighbor member
  have listed := (expanded_neighbors x _ _ _ expanded asker neighbor).mp member
  cases found : x.nodes[neighbor]? with
  | none =>
      obtain ⟨fetch, foundFetch, waiting, _⟩ := expanded.asked neighbor listed found
      refine .inr (.inl ?_)
      rw [askers_of_get _ neighbor fetch foundFetch, waiting, mem_joined]
      exact .inr rfl
  | some node =>
      refine .inl ⟨?_, ?_⟩
      · rw [NodeTable.isVisible, expanded.nodes, if_pos listed, found]
        rfl
      · rw [LinkTable.drawn_visible _ _ _ expanded.links, (mem_neighbors x asker neighbor).mp listed, Bool.true_and]
        have reached : reaches x.nodes asker (x.neighbors asker.anchor asker.direction)
            (asker.ends neighbor).1 (asker.ends neighbor).2 = true := by
          rw [reaches, List.any_eq_true]
          exact ⟨neighbor, listed, by simp [found]⟩
        rw [reached, Bool.or_true]

variable [DecidableEq ε] {data : Collection} {directions : Set Direction} {root : String}

theorem expand_surveyed (x : Explorer α σ ε) (outstanding : List Ticket)
    (surveyed : Surveyed data directions root x outstanding) (asker : Asker) (turned : asker.direction ∈ directions)
    (shown : x.nodes.isVisible asker.anchor = true) :
    Surveyed data directions root (x.expand asker.anchor asker.direction).2
      (outstanding ++ (x.expand asker.anchor asker.direction).1) := by
  have expanded := expand_shown x asker.anchor asker.direction shown
  have growth : Growth x (x.expand asker.anchor asker.direction).2 :=
    .acts _ (expand_acts x asker.anchor asker.direction)
  have known := expanded_known x _ _ _ expanded
  have unknown := expanded_unknown x _ _ _ expanded
  have ledger := expand_ledger x asker.anchor asker.direction outstanding [] surveyed.ledger
  have founded := expand_founded x asker shown surveyed.founded fun id a linked => growth_linked x _ growth id a linked
  have ends := growth_ends_shown x _ growth surveyed.ends
  have books := expanded_books x _ _ _ expanded
  have visible := expanded_visible x _ _ _ expanded
  have pairs := LinkTable.drawn_known _ _ _ expanded.links
  generalize (x.expand asker.anchor asker.direction).2 = y at *
  refine ⟨ledger, founded, ends, ?_, ?_, ?_, ?_, ?_, ?_⟩
  · rw [known]
    exact surveyed.rooted
  · intro id knownNow
    rw [known] at knownNow
    exact visible id (surveyed.shown id knownNow)
  · intro id knownNow
    rw [known] at knownNow
    exact surveyed.reached id knownNow
  · intro s d
    rw [pairs, surveyed.links]
    simp only [known]
  · intro id pendingNow
    rcases books id with ⟨⟨_, fresh⟩, _, _, waiting⟩ | ⟨_, pending, _⟩
    · exact ⟨(unknown id).mpr fresh, asker, (waiting asker).mpr (.inr rfl), turned⟩
    · rw [pending] at pendingNow
      rw [unknown, askers_congr x y id pending]
      exact surveyed.sought id pendingNow
  · intro id failure held
    rcases books id with ⟨_, _, forgiven, _⟩ | ⟨_, _, failures⟩
    · rw [forgiven] at held
      cases held
    · rw [failures] at held
      simp only [known]
      exact surveyed.missed id failure held

end GraphBrowser.Explorer
