import GraphBrowser.Proofs.Crawling

set_option autoImplicit false

namespace GraphBrowser

namespace Explorer

variable {α σ ε : Type} [Coordinate α]

structure Found (data : Collection) (directions : Set Direction) (root : String) (x : Explorer α σ ε) : Prop where
  settled : x.pending = ∅
  known : ∀ id : String, x.nodes[id]?.isSome = true ↔ data.Reaches directions root id
  shown : ∀ id : String, x.nodes[id]?.isSome = true → x.nodes.isVisible id = true
  links : ∀ s d, x.links.isVisible s d = true ↔
    data.Links s d ∧ x.nodes[s]?.isSome = true ∧ x.nodes[d]?.isSome = true
  table : ∀ l ∈ x.links.toList, l.visible = true ↔
    x.nodes[l.source]?.isSome = true ∧ x.nodes[l.destination]?.isSome = true
  failures : ∀ (id : String) (failure : Failure), x.failures[id]? = some failure ↔
    failure = .fetch id (.notFound id) ∧ data[id]? = none ∧
      ∃ n : String, x.nodes[n]?.isSome = true ∧ data.Adjoins directions n id

end Explorer

namespace Crawl

variable {α σ ε : Type} [Coordinate α] {data : Collection} {directions : Set Direction} {root : String}

theorem thorough_settled (crawl : Crawl α σ ε) (thorough : Thorough data directions root crawl)
    (ended : crawl.outstanding = []) (id : String) : crawl.explorer.pending[id]? = none := by
  cases found : crawl.explorer.pending[id]? with
  | none => rfl
  | some fetch =>
      have live : crawl.explorer.Live ⟨id, fetch.serial⟩ := by rw [Explorer.Live, found, Option.map_some]
      have member := ((thorough.surveyed.ledger.open_iff _).mp live).1
      rw [ended] at member
      cases member

theorem thorough_handled (crawl : Crawl α σ ε) (thorough : Thorough data directions root crawl) (listed : root ∈ data)
    (consistent : data.Consistent) (ended : crawl.outstanding = []) (a : Asker)
    (known : crawl.explorer.nodes[a.anchor]?.isSome = true) (turned : a.direction ∈ directions) (neighbor : String)
    (links : data.Links (a.ends neighbor).1 (a.ends neighbor).2) :
    (crawl.explorer.nodes[neighbor]?.isSome = true ∧
        crawl.explorer.links.isVisible (a.ends neighbor).1 (a.ends neighbor).2 = true) ∨
      data[neighbor]? = none ∧ crawl.explorer.failures[neighbor]? = some (.fetch neighbor (.notFound neighbor)) := by
  have settled := thorough_settled crawl thorough ended neighbor
  have member := (Explorer.surveyed_neighbors thorough.surveyed listed consistent a known neighbor).mpr links
  rcases thorough.exhausted a known turned neighbor member with ⟨shown, drawn⟩ | waits | ⟨missing, pending | failed⟩
  · exact .inl ⟨NodeTable.visible_known _ neighbor shown, drawn⟩
  · rw [Explorer.askers, settled] at waits
    cases waits
  · rw [settled] at pending
    cases pending
  · exact .inr ⟨missing, failed⟩

theorem thorough_closed (crawl : Crawl α σ ε) (thorough : Thorough data directions root crawl) (listed : root ∈ data)
    (consistent : data.Consistent) (ended : crawl.outstanding = []) (id : String)
    (reaches : data.Reaches directions root id) : crawl.explorer.nodes[id]?.isSome = true := by
  induction reaches with
  | refl => exact thorough.surveyed.rooted
  | tail _ last ih =>
      obtain ⟨⟨direction, turned, links⟩, present⟩ := last
      rcases thorough_handled crawl thorough listed consistent ended ⟨_, direction⟩ ih turned _ links with
        ⟨known, _⟩ | ⟨missing, _⟩
      · exact known
      · obtain ⟨f, found⟩ := (IdMap.mem_iff data _).mp present
        rw [found] at missing
        cases missing

-- A link between known nodes is met from one of its ends, whatever the directions are.
theorem thorough_joined (crawl : Crawl α σ ε) (thorough : Thorough data directions root crawl) (listed : root ∈ data)
    (consistent : data.Consistent) (ended : crawl.outstanding = []) (some_direction : directions.Nonempty) (s d : String)
    (links : data.Links s d) (source : crawl.explorer.nodes[s]?.isSome = true)
    (destination : crawl.explorer.nodes[d]?.isSome = true) : crawl.explorer.links.isVisible s d = true := by
  have present (id : String) (known : crawl.explorer.nodes[id]?.isSome = true) : data[id]? ≠ none := by
    obtain ⟨f, found⟩ := Explorer.surveyed_listed thorough.surveyed listed id known
    rw [found]
    exact Option.some_ne_none f
  obtain ⟨direction, turned⟩ := some_direction
  cases direction with
  | outbound =>
      rcases thorough_handled crawl thorough listed consistent ended ⟨s, .outbound⟩ source turned d links with
        ⟨_, drawn⟩ | ⟨missing, _⟩
      · exact drawn
      · exact absurd missing (present d destination)
  | inbound =>
      rcases thorough_handled crawl thorough listed consistent ended ⟨d, .inbound⟩ destination turned s links with
        ⟨_, drawn⟩ | ⟨missing, _⟩
      · exact drawn
      · exact absurd missing (present s source)

theorem thorough_found (crawl : Crawl α σ ε) (thorough : Thorough data directions root crawl) (listed : root ∈ data)
    (consistent : data.Consistent) (ended : crawl.outstanding = []) (some_direction : directions.Nonempty) :
    Explorer.Found data directions root crawl.explorer := by
  have surveyed := thorough.surveyed
  have ends (s d : String) (visible : crawl.explorer.links.isVisible s d = true) :
      crawl.explorer.nodes[s]?.isSome = true ∧ crawl.explorer.nodes[d]?.isSome = true :=
    (surveyed.ends s d visible).imp (NodeTable.visible_known _ s) (NodeTable.visible_known _ d)
  have listedPair (s d : String) (known : (crawl.explorer.links.get? s d).isSome = true) : data.Links s d := by
    obtain ⟨id, f, _, found, lists⟩ := (surveyed.links s d).mp known
    exact ⟨id, f, found, lists⟩
  have joined := thorough_joined crawl thorough listed consistent ended some_direction
  refine ⟨?_, ?_, surveyed.shown, ?_, ?_, ?_⟩
  · apply Std.ExtTreeMap.ext_getElem?
    intro id
    rw [thorough_settled crawl thorough ended id, Std.ExtTreeMap.getElem?_empty]
  · intro id
    exact ⟨surveyed.reached id, thorough_closed crawl thorough listed consistent ended id⟩
  · intro s d
    constructor
    · intro visible
      obtain ⟨l, found, _⟩ := (LinkTable.visible_iff _ s d).mp visible
      exact ⟨listedPair s d (by rw [found]; rfl), ends s d visible⟩
    · intro ⟨links, source, destination⟩
      exact joined s d links source destination
  · intro l member
    have found := LinkTable.get_of_mem _ l member
    rw [← LinkTable.visible_of_get _ _ _ l found]
    constructor
    · exact ends l.source l.destination
    · intro ⟨source, destination⟩
      exact joined _ _ (listedPair _ _ (by rw [found]; rfl)) source destination
  · intro id failure
    constructor
    · exact surveyed.missed id failure
    · intro ⟨notFound, missing, n, known, direction, turned, links⟩
      rcases thorough_handled crawl thorough listed consistent ended ⟨n, direction⟩ known turned id links with
        ⟨present, _⟩ | ⟨_, failed⟩
      · obtain ⟨f, found⟩ := Explorer.surveyed_listed surveyed listed id present
        rw [found] at missing
        cases missing
      · rw [failed, notFound]

variable [Surface σ α ε] [DecidableEq ε]

theorem start_thorough (surface : σ) (settings : Settings α) (root : Fragment) (order : List Direction)
    (found : data[root.id]? = some root) (whole : ∀ d, d ∈ order ↔ d ∈ directions) :
    Thorough data directions root.id (start surface settings root order : Crawl α σ ε) := by
  have books := Explorer.open_root_books (Explorer.new surface settings : Explorer α σ ε) root
  have nodes := Explorer.open_root_get (Explorer.new surface settings : Explorer α σ ε) root
  have links := Explorer.open_root_links (Explorer.new surface settings : Explorer α σ ε) root
  have ends := Explorer.growth_ends_shown _ _
    (Explorer.open_root_growth (Explorer.new surface settings : Explorer α σ ε) root)
    (Explorer.new_ends_shown surface settings)
  have opened : (start surface settings root order : Crawl α σ ε) =
      ⟨(((Explorer.new surface settings).openRoot root).2.expandAlong root.id order).2,
        (((Explorer.new surface settings).openRoot root).2.expandAlong root.id order).1⟩ := rfl
  rw [opened]
  generalize ((Explorer.new surface settings : Explorer α σ ε).openRoot root).2 = x at *
  obtain ⟨pending, rest⟩ := Prod.mk.inj books
  obtain ⟨failures, _⟩ := Prod.mk.inj rest
  have known (id : String) : x.nodes[id]?.isSome = true ↔ id = root.id := by
    rw [nodes]
    by_cases here : id = root.id
    · simp [here]
    · simp [here, Explorer.new]
  have shown : x.nodes.isVisible root.id = true := by
    rw [NodeTable.isVisible, nodes, if_pos rfl]
    rfl
  have surveyed : Explorer.Surveyed data directions root.id x [] := by
    refine ⟨Explorer.ledger_of_books _ x books [] [] (Explorer.new_ledger surface settings), ?_, ends,
      (known root.id).mpr rfl, ?_, ?_, ?_, ?_, ?_⟩
    · intro id fetch under
      rw [pending] at under
      simp [Explorer.new] at under
    · intro id knownNow
      rw [(known id).mp knownNow, shown]
    · intro id knownNow
      rw [(known id).mp knownNow]
      exact .refl
    · intro s d
      rw [links, Explorer.learned_pairs]
      constructor
      · intro either
        cases either with
        | inl old => cases old
        | inr new => exact ⟨root.id, root, (known root.id).mpr rfl, found, new⟩
      · rintro ⟨id, f, knownNow, foundToo, lists⟩
        rw [(known id).mp knownNow, found] at foundToo
        exact .inr (Option.some.inj foundToo ▸ lists)
    · intro id under
      rw [pending] at under
      simp [Explorer.new] at under
    · intro id failure held
      rw [failures] at held
      simp [Explorer.new] at held
  obtain ⟨surveyedLater, knownLater, _, exhausted⟩ :=
    Explorer.expand_along_surveyed data directions root.id x [] surveyed root.id shown order fun d => (whole d).mp
  rw [List.nil_append] at surveyedLater
  refine ⟨surveyedLater, ?_⟩
  intro a knownAnchor turned
  rw [knownLater, known] at knownAnchor
  obtain ⟨anchor, direction⟩ := a
  obtain rfl := knownAnchor
  exact exhausted direction ((whole direction).mpr turned)

theorem crawl_finds_reachable (surface : σ) (settings : Settings α) (fragments : List Fragment)
    (consistent : (Collection.ofList fragments).Consistent) (root : Fragment)
    (found : (Collection.ofList fragments)[root.id]? = some root) (directions : Set Direction)
    (some_direction : directions.Nonempty) (order : List Direction) (whole : ∀ d, d ∈ order ↔ d ∈ directions) :
    let data := Collection.ofList fragments
    Acc (fun later now : Crawl α σ ε => Step data directions now later) (start surface settings root order) ∧
      ∀ finish : Crawl α σ ε, Relation.ReflTransGen (Step data directions) (start surface settings root order) finish →
        (∀ later, ¬ Step data directions finish later) →
          finish.outstanding = [] ∧ Explorer.Found data directions root.id finish.explorer := by
  intro data
  have listed : root.id ∈ data := (IdMap.mem_iff data root.id).mpr ⟨root, found⟩
  have keyed : ∀ (id : String) (f : Fragment), data[id]? = some f → f.id = id :=
    fun id f here => (Collection.of_list_get fragments id f here).2
  have thorough : Thorough data directions root.id (start surface settings root order : Crawl α σ ε) :=
    start_thorough surface settings root order found whole
  refine ⟨thorough_ends _ thorough listed consistent keyed, ?_⟩
  intro finish steps stuck
  have ended : finish.outstanding = [] := by
    obtain ⟨x, outstanding⟩ := finish
    cases outstanding with
    | nil => rfl
    | cons ticket rest => exact absurd (Step.take x [] rest ticket order whole) (stuck _)
  have thoroughThen := steps_thorough _ finish steps thorough listed consistent keyed
  exact ⟨ended, thorough_found finish thoroughThen listed consistent ended some_direction⟩

-- b can be reached from a. The node c that both know has no fragment.
def pairRoot : Fragment := ⟨⟨"a", none⟩, [⟨"a", "b", "knows"⟩, ⟨"a", "c", "knows"⟩]⟩

def pairData : List Fragment := [pairRoot, ⟨⟨"b", none⟩, [⟨"a", "b", "knows"⟩, ⟨"b", "c", "likes"⟩]⟩]

theorem crawl_finds_pair :
    (Collection.ofList pairData).Consistent ∧ (Collection.ofList pairData)[pairRoot.id]? = some pairRoot ∧
      ({.outbound} : Set Direction).Nonempty ∧ (∀ d, d ∈ [Direction.outbound] ↔ d ∈ ({.outbound} : Set Direction)) ∧
      Acc (fun later now : Crawl Float (CallLog Float) Nat => Step (Collection.ofList pairData) {.outbound} now later)
        (start (CallLog.empty ⟨800, 600⟩) .standard pairRoot [.outbound]) ∧
      ∀ finish : Crawl Float (CallLog Float) Nat,
        Relation.ReflTransGen (Step (Collection.ofList pairData) {.outbound})
          (start (CallLog.empty ⟨800, 600⟩) .standard pairRoot [.outbound]) finish →
        (∀ later, ¬ Step (Collection.ofList pairData) {.outbound} finish later) →
          finish.outstanding = [] ∧
            Explorer.Found (Collection.ofList pairData) {.outbound} pairRoot.id finish.explorer := by
  have consistent : (Collection.ofList pairData).Consistent := Collection.of_list_consistent pairData (by decide)
  have found : (Collection.ofList pairData)[pairRoot.id]? = some pairRoot := by decide +kernel
  have some_direction : ({.outbound} : Set Direction).Nonempty := Set.singleton_nonempty _
  have whole : ∀ d, d ∈ [Direction.outbound] ↔ d ∈ ({.outbound} : Set Direction) := by simp
  exact ⟨consistent, found, some_direction, whole, crawl_finds_reachable (CallLog.empty ⟨800, 600⟩) .standard pairData
    consistent pairRoot found {.outbound} some_direction [.outbound] whole⟩

end Crawl

end GraphBrowser
