import GraphBrowser.Proofs.Tallying
import Mathlib.Data.List.Induction

set_option autoImplicit false

namespace GraphBrowser.Explorer

variable {α σ ε δ : Type} [Coordinate α] [Surface σ α ε] [DecidableEq ε] [Adjustable σ δ]

structure Begins (holds : Explorer α σ ε → Prop) (x : Explorer α σ ε) (ops before : List (Operation α ε δ))
    (op : Operation α ε δ) : Prop where
  started : before ++ [op] <+: ops
  not_yet : ∀ earlier, earlier <+: before → ¬ holds (x.run earlier)
  now : holds (x.run (before ++ [op]))

theorem begins (holds : Explorer α σ ε → Prop) (x : Explorer α σ ε) (ops : List (Operation α ε δ)) (start : ¬ holds x)
    (sometime : ∃ earlier, earlier <+: ops ∧ holds (x.run earlier)) : ∃ before op, Begins holds x ops before op := by
  induction ops using List.reverseRecOn with
  | nil =>
      obtain ⟨earlier, empty, held⟩ := sometime
      rw [List.prefix_nil.mp empty] at held
      exact absurd held start
  | append_singleton ops op ih =>
      by_cases sooner : ∃ earlier, earlier <+: ops ∧ holds (x.run earlier)
      · obtain ⟨before, first, begins⟩ := ih sooner
        exact ⟨before, first, begins.started.trans (List.prefix_append ops [op]), begins.not_yet, begins.now⟩
      · obtain ⟨whole, started, held⟩ := sometime
        cases List.prefix_concat_iff.mp started with
        | inl all =>
            refine ⟨ops, op, List.prefix_rfl, ?_, all ▸ held⟩
            intro earlier started held
            exact sooner ⟨earlier, started, held⟩
        | inr within => exact absurd ⟨whole, within, held⟩ sooner

theorem begins_hereafter (holds : Explorer α σ ε → Prop) (x : Explorer α σ ε) (ops before rest : List (Operation α ε δ))
    (op : Operation α ε δ) (first : Begins holds x ops (before ++ rest) op) (earlier : List (Operation α ε δ))
    (started : earlier <+: rest) : ¬ holds ((x.run before).run earlier) := by
  rw [← run_append]
  exact first.not_yet _ ((List.prefix_append_right_inj before).mpr started)

theorem perform_shows (x : Explorer α σ ε) (founded : Founded x) (op : Operation α ε δ) (explores : op.explores = true)
    (id : String) (hidden : x.nodes.isVisible id = false) (shown : (x.perform op).nodes.isVisible id = true) :
    (∃ f, op = .openRoot f ∧ f.id = id) ∨ (∃ anchor direction, op = .expand anchor direction) ∨
      ∃ ticket f connected, op = .redeem ticket (.ok f) ∧ ticket.node = id ∧ f.id = id ∧ x.Live ticket ∧
        awaited x.nodes (x.askers id) = true ∧
        Arrived x (x.redeem ticket (.ok f)).2 f (x.askers id) connected := by
  have unchanged (same : (x.perform op).nodes[id]? = x.nodes[id]?) : False := by
    rw [NodeTable.visible_congr _ _ id same, hidden] at shown
    cases shown
  cases op with
  | openRoot f =>
      by_cases here : id = f.id
      · exact .inl ⟨f, rfl, here.symm⟩
      · exact (unchanged ((open_root_get x f id).trans (if_neg here))).elim
  | expand anchor direction => exact .inr (.inl ⟨anchor, direction, rfl⟩)
  | redeem ticket result =>
      rcases redeem_arrives x founded ticket result with ⟨same, _⟩ | ⟨f, connected, rfl, matching, live, arrived⟩
      · exact (unchanged (by rw [perform, same])).elim
      · by_cases here : id = f.id
        · subst here
          rw [← matching] at arrived
          refine .inr (.inr ⟨ticket, f, connected, rfl, matching.symm, rfl, live, ?_, arrived⟩)
          rw [perform, NodeTable.visible_of_get _ f.id _ arrived.node, hidden, Bool.or_false] at shown
          exact shown
        · exact (unchanged (arrived.others id here)).elim
  | collapse closed =>
      cases known : x.nodes[closed]? with
      | none => exact (unchanged (by rw [perform, collapse_unknown x closed known])).elim
      | some node =>
          rw [perform, collapse_known x closed node known, hide_nodes, NodeTable.set_visible_visible] at shown
          split at shown
          next => simp at shown
          next =>
            rw [hidden] at shown
            cases shown
  | runLayout => cases explores
  | cancelLayout => cases explores
  | applyFrame frame => cases explores
  | adjust change => cases explores

theorem perform_learns (x : Explorer α σ ε) (founded : Founded x) (op : Operation α ε δ) (explores : op.explores = true)
    (id : String) (unknown : x.nodes[id]? = none) (known : (x.perform op).nodes[id]?.isSome = true) :
    (∃ f, op = .openRoot f ∧ f.id = id) ∨
      ∃ ticket f connected, op = .redeem ticket (.ok f) ∧ ticket.node = id ∧ f.id = id ∧ x.Live ticket ∧
        Arrived x (x.redeem ticket (.ok f)).2 f (x.askers id) connected := by
  have unchanged (same : (x.perform op).nodes[id]?.isSome = x.nodes[id]?.isSome) : False := by
    rw [same, unknown] at known
    cases known
  cases op with
  | openRoot f =>
      by_cases here : id = f.id
      · exact .inl ⟨f, rfl, here.symm⟩
      · exact (unchanged (by rw [perform, open_root_get, if_neg here])).elim
  | expand anchor direction =>
      cases shown : x.nodes.isVisible anchor with
      | true => exact (unchanged (expanded_known x _ _ _ (expand_shown x anchor direction shown) id)).elim
      | false => exact (unchanged (by rw [perform, expand_hidden x anchor direction shown])).elim
  | redeem ticket result =>
      rcases redeem_arrives x founded ticket result with ⟨same, _⟩ | ⟨f, connected, rfl, matching, live, arrived⟩
      · exact (unchanged (by rw [perform, same])).elim
      · by_cases here : id = f.id
        · subst here
          rw [← matching] at arrived
          exact .inr ⟨ticket, f, connected, rfl, matching.symm, rfl, live, arrived⟩
        · exact (unchanged (by rw [perform, arrived.others id here])).elim
  | collapse closed =>
      have same := collapsed_element x closed id
      refine (unchanged ?_).elim
      rw [Bool.eq_iff_iff, known_element, known_element, perform, same]
  | runLayout => cases explores
  | cancelLayout => cases explores
  | applyFrame frame => cases explores
  | adjust change => cases explores

def ofElement (element : ε) : ε → Point α → Bool := fun other _ => decide (other = element)

-- As long as a node is hidden, an element that is its alone stays where it is.
theorem run_unmoved (moves : MoveCount σ) (x : Explorer α σ ε) (founded : Founded x) (ops : List (Operation α ε δ))
    (explores : ∀ op ∈ ops, op.explores = true) (id : String) (element : ε)
    (hidden : ∀ earlier, earlier <+: ops → (x.run earlier).nodes.isVisible id = false)
    (unshared : ∀ other, (x.run ops).element? other = some element → other = id) :
    moves.count (x.run ops).surface (ofElement element) = moves.count x.surface (ofElement element) := by
  induction ops generalizing x with
  | nil => rfl
  | cons op rest ih =>
      have later := ih (x.perform op) (perform_founded x op founded)
        (fun o member => explores o (List.mem_cons_of_mem op member))
        (fun earlier started => hidden (op :: earlier) (List.cons_prefix_cons.mpr ⟨rfl, started⟩)) unshared
      refine later.trans ?_
      cases perform_moves moves x founded op (explores op List.mem_cons_self) (ofElement element) with
      | inl same => exact same
      | inr moved =>
          obtain ⟨other, borne, offset, counts, has, shown⟩ := moved
          obtain rfl := of_decide_eq_true counts
          obtain rfl := unshared other (run_element (x.perform op) rest other borne has)
          have still := hidden [op] (List.cons_prefix_cons.mpr ⟨rfl, List.nil_prefix⟩)
          exact absurd (still.symm.trans shown) Bool.false_ne_true

theorem run_idle (x : Explorer α σ ε) (ops : List (Operation α ε δ)) (id : String)
    (known : x.nodes[id]?.isSome = true) (idle : x.pending[id]? = none) : (x.run ops).pending[id]? = none := by
  have both := run_keeps (fun y : Explorer α σ ε => y.nodes[id]?.isSome = true ∧ y.pending[id]? = none) ?_ x ops
    ⟨known, idle⟩
  · exact both.2
  · intro y op ⟨knownThen, idleThen⟩
    refine ⟨perform_known y op id knownThen, ?_⟩
    cases perform_pending y op with
    | inl expansion =>
        obtain ⟨asker, rfl, shown⟩ := expansion
        have expanded := expand_shown y asker.anchor asker.direction shown
        exact (expanded.idle id fun _ => knownThen).1.trans idleThen
    | inr fewer =>
        cases found : (y.perform op).pending[id]? with
        | none => rfl
        | some fetch =>
            have before := fewer id fetch found
            rw [idleThen] at before
            cases before

-- The operation takes in a node when all that asked for it are closed.
def Orphans (x : Explorer α σ ε) (op : Operation α ε δ) (id : String) : Prop :=
  ∃ ticket f, op = .redeem ticket (.ok f) ∧ ticket.node = id ∧ f.id = id ∧ x.Live ticket ∧
    awaited x.nodes (x.askers id) = false

-- Where an operation puts a node that it shows: a root in the middle, a fetched node around one that waits for it.
def Target (x : Explorer α σ ε) (op : Operation α ε δ) (id : String) (offset : Point α) : Prop :=
  (∃ f, op = .openRoot f ∧ f.id = id ∧ offset = x.middle f) ∨
    ∃ ticket f, op = .redeem ticket (.ok f) ∧ ticket.node = id ∧ f.id = id ∧ x.Live ticket ∧
      Around x f (x.askers id) offset

theorem open_root_places (moves : MoveCount σ) (x : Explorer α σ ε) (f : Fragment) (element : ε)
    (borne : (x.openRoot f).2.element? f.id = some element) :
    Moved moves x (x.openRoot f).2 element (x.middle f) := by
  have node := open_root_get x f f.id
  rw [if_pos rfl] at node
  rw [element_of_get _ f.id _ node] at borne
  obtain rfl := Option.some.inj borne
  exact moved_of_tally moves x _ _ _ fun counted => open_root_tally (moves.tally counted) x f

theorem shown_at_once (moves : MoveCount σ) (x : Explorer α σ ε) (founded : Founded x) (op : Operation α ε δ)
    (explores : op.explores = true) (id : String) (element : ε) (unknown : x.nodes[id]? = none)
    (shown : (x.perform op).nodes.isVisible id = true) (borne : (x.perform op).element? id = some element) :
    ∃ offset, Target x op id offset ∧ Moved moves x (x.perform op) element offset := by
  have known : (x.perform op).nodes[id]?.isSome = true := (known_element _ id).mpr ⟨element, borne⟩
  rcases perform_learns x founded op explores id unknown known with
    ⟨f, rfl, rfl⟩ | ⟨ticket, f, connected, rfl, node, rfl, live, arrived⟩
  · exact ⟨x.middle f, .inl ⟨f, rfl, rfl, rfl⟩, open_root_places moves x f element borne⟩
  · rw [perform] at shown borne ⊢
    have waiting : awaited x.nodes (x.askers f.id) = true := by
      rw [NodeTable.visible_of_get _ f.id _ arrived.node, NodeTable.isVisible, unknown] at shown
      simpa using shown
    obtain ⟨offset, around, moved⟩ := arrived.moved (by rw [places, unknown, waiting]; rfl)
    rw [element_of_get _ f.id _ arrived.node] at borne
    obtain rfl := Option.some.inj borne
    exact ⟨offset, .inr ⟨ticket, f, rfl, node, rfl, live, around⟩,
      moved_of_tally moves x _ _ offset fun counted => moved (moves.tally counted)⟩

theorem shown_later (moves : MoveCount σ) (x : Explorer α σ ε) (founded : Founded x) (op : Operation α ε δ)
    (explores : op.explores = true) (id : String) (element : ε) (idle : x.pending[id]? = none)
    (hidden : x.nodes.isVisible id = false) (shown : (x.perform op).nodes.isVisible id = true)
    (borne : (x.perform op).element? id = some element) :
    (∃ offset, Target x op id offset ∧ Moved moves x (x.perform op) element offset) ∨
      (∃ anchor direction, op = .expand anchor direction) ∧
        moves.count (x.perform op).surface (ofElement element) = moves.count x.surface (ofElement element) := by
  rcases perform_shows x founded op explores id hidden shown with
    ⟨f, rfl, rfl⟩ | ⟨anchor, direction, rfl⟩ | ⟨ticket, f, _, rfl, rfl, _, live, _⟩
  · exact .inl ⟨x.middle f, .inl ⟨f, rfl, rfl, rfl⟩, open_root_places moves x f element borne⟩
  · obtain ⟨_, same⟩ := expand_tally (moves.tally (ofElement element)) x anchor direction
    exact .inr ⟨⟨anchor, direction, rfl⟩, same⟩
  · rw [Live, idle] at live
    cases live

-- A node that becomes known but is not shown has come in an answer that nobody is left to wait for.
theorem learned_hidden (x : Explorer α σ ε) (founded : Founded x) (op : Operation α ε δ) (explores : op.explores = true)
    (id : String) (unknown : x.nodes[id]? = none) (known : (x.perform op).nodes[id]?.isSome = true)
    (hidden : (x.perform op).nodes.isVisible id = false) :
    Orphans x op id ∧ (x.perform op).pending[id]? = none := by
  rcases perform_learns x founded op explores id unknown known with
    ⟨f, rfl, rfl⟩ | ⟨ticket, f, connected, rfl, node, rfl, live, arrived⟩
  · have shown := open_root_get x f f.id
    rw [if_pos rfl] at shown
    rw [perform, NodeTable.visible_of_get _ f.id _ shown] at hidden
    cases hidden
  · have closed : awaited x.nodes (x.askers f.id) = false := by
      rw [perform, NodeTable.visible_of_get _ f.id _ arrived.node, Bool.or_eq_false_iff] at hidden
      exact hidden.1
    refine ⟨⟨ticket, f, rfl, node, rfl, live, closed⟩, ?_⟩
    rcases redeem_cases x ticket (.ok f) with stale | ⟨_, _, settled⟩
    · rw [perform, stale] at known
      rw [unknown] at known
      cases known
    · rw [perform, settled.pending, IdMap.erase_get, if_pos node.symm]

theorem shown_after_learned (moves : MoveCount σ) (x : Explorer α σ ε) (founded : Founded x) (made op : Operation α ε δ)
    (later : List (Operation α ε δ)) (explores : ∀ o ∈ made :: later, o.explores = true) (opExplores : op.explores = true)
    (id : String) (element : ε) (unknown : x.nodes[id]? = none) (known : (x.perform made).nodes[id]?.isSome = true)
    (hidden : ∀ earlier, earlier <+: made :: later → (x.run earlier).nodes.isVisible id = false)
    (shown : ((x.run (made :: later)).perform op).nodes.isVisible id = true)
    (borne : ((x.run (made :: later)).perform op).element? id = some element) :
    (∃ offset, Target (x.run (made :: later)) op id offset ∧
        Moved moves (x.run (made :: later)) ((x.run (made :: later)).perform op) element offset) ∨
      Orphans x made id ∧ (∃ anchor direction, op = .expand anchor direction) ∧
        ((∀ other, ((x.run (made :: later)).perform op).element? other = some element → other = id) →
          moves.count ((x.run (made :: later)).perform op).surface (ofElement element) =
            moves.count x.surface (ofElement element)) := by
  have hiddenMade := hidden [made] (List.cons_prefix_cons.mpr ⟨rfl, List.nil_prefix⟩)
  obtain ⟨orphans, idle⟩ :=
    learned_hidden x founded made (explores made List.mem_cons_self) id unknown known hiddenMade
  have foundedThen : Founded (x.run (made :: later)) := run_keeps Founded perform_founded x (made :: later) founded
  rcases shown_later moves (x.run (made :: later)) foundedThen op opExplores id element
    (run_idle (x.perform made) later id known idle) (hidden _ List.prefix_rfl) shown borne with
    placed | ⟨expansion, same⟩
  · exact .inl placed
  · refine .inr ⟨orphans, expansion, ?_⟩
    intro unshared
    rw [same]
    apply run_unmoved moves x founded (made :: later) explores id element hidden
    intro other has
    exact unshared other (perform_element _ op other element has)

theorem shown_nodes_placed_unless_orphaned (moves : MoveCount σ) (surface : σ) (settings : Settings α)
    (ops : List (Operation α ε δ)) (explores : ∀ op ∈ ops, op.explores = true) (id : String) (element : ε)
    (shown : ((Explorer.new surface settings : Explorer α σ ε).run ops).nodes.isVisible id = true)
    (borne : ((Explorer.new surface settings : Explorer α σ ε).run ops).element? id = some element) :
    let start : Explorer α σ ε := Explorer.new surface settings
    ∃ before op, Begins (fun y => y.nodes.isVisible id = true) start ops before op ∧
      ((∃ offset, Target (start.run before) op id offset ∧
          Moved moves (start.run before) (start.run (before ++ [op])) element offset) ∨
        ∃ earlier made, Begins (fun y => y.nodes[id]?.isSome = true) start before earlier made ∧
          Orphans (start.run earlier) made id ∧ (∃ anchor direction, op = .expand anchor direction) ∧
          ((∀ other, (start.run ops).element? other = some element → other = id) →
            moves.count (start.run (before ++ [op])).surface (ofElement element) =
              moves.count (start.run earlier).surface (ofElement element))) := by
  intro start
  have founded (some_ops : List (Operation α ε δ)) : Founded (start.run some_ops) :=
    run_founded surface settings some_ops
  obtain ⟨before, op, first⟩ := begins (fun y => y.nodes.isVisible id = true) start ops Bool.false_ne_true
    ⟨ops, List.prefix_rfl, shown⟩
  have knownThen := NodeTable.visible_known _ id first.now
  obtain ⟨earlier, made, learned⟩ := begins (fun y => y.nodes[id]?.isSome = true) start (before ++ [op])
    Bool.false_ne_true ⟨_, List.prefix_rfl, knownThen⟩
  refine ⟨before, op, first, ?_⟩
  obtain ⟨after, whole⟩ := first.started
  have borneThen : (start.run (before ++ [op])).element? id = some element :=
    run_known_element _ after id element knownThen (by rwa [← run_append, whole])
  have explored (o : Operation α ε δ) (member : o ∈ before ++ [op]) : o.explores = true :=
    explores o (whole ▸ List.mem_append_left after member)
  have opExplores := explored op (List.mem_append_right before List.mem_cons_self)
  have unknown : (start.run earlier).nodes[id]? = none :=
    Option.not_isSome_iff_eq_none.mp (learned.not_yet earlier List.prefix_rfl)
  have shownThen := first.now
  cases List.prefix_concat_iff.mp learned.started with
  | inl together =>
      obtain ⟨rfl, same⟩ := List.append_inj' together rfl
      rw [run_snoc] at shownThen borneThen ⊢
      exact .inl (shown_at_once moves _ (founded earlier) op opExplores id element unknown shownThen borneThen)
  | inr sooner =>
      have started := sooner
      obtain ⟨later, parts⟩ := sooner
      rw [List.append_assoc, List.singleton_append] at parts
      subst parts
      have known := learned.now
      rw [run_snoc] at known
      rw [run_snoc, run_append] at shownThen borneThen ⊢
      have parted := shown_after_learned moves (start.run earlier) (founded earlier) made op later ?_ opExplores
        id element unknown known ?_ shownThen borneThen
      · refine parted.imp_right ?_
        intro ⟨orphans, expansion, unmoved⟩
        refine ⟨earlier, made, ⟨started, learned.not_yet, learned.now⟩, orphans, expansion, fun unshared => unmoved ?_⟩
        intro other has
        have still := run_element _ after other element has
        rw [← run_append, ← run_snoc, ← run_append, whole] at still
        exact unshared other still
      · intro o member
        exact explored o (List.mem_append_left [op] (List.mem_append_right earlier member))
      · intro p started
        exact Bool.eq_false_iff.mpr (begins_hereafter _ start ops earlier (made :: later) op first p started)

def attended : List (Operation Float Nat Empty) :=
  [.openRoot ⟨⟨"a", none⟩, [⟨"a", "b", "knows"⟩]⟩, .expand "a" .outbound, .redeem ⟨"b", 1⟩ (.ok ⟨⟨"b", none⟩, []⟩)]

theorem attended_node_placed :
    (∀ op ∈ attended, op.explores = true) ∧ (recorded attended).nodes.isVisible "b" = true ∧
      (recorded attended).element? "b" = some 1 ∧
      ∃ before op, Begins (fun y => y.nodes.isVisible "b" = true) (recorded []) attended before op ∧
        ((∃ offset, Target ((recorded []).run before) op "b" offset ∧
            Moved CallLog.moves ((recorded []).run before) ((recorded []).run (before ++ [op])) 1 offset) ∨
          ∃ earlier made, Begins (fun y => y.nodes["b"]?.isSome = true) (recorded []) before earlier made ∧
            Orphans ((recorded []).run earlier) made "b" ∧ (∃ anchor direction, op = .expand anchor direction) ∧
            ((∀ other, ((recorded []).run attended).element? other = some 1 → other = "b") →
              CallLog.moves.count ((recorded []).run (before ++ [op])).surface (ofElement 1) =
                CallLog.moves.count ((recorded []).run earlier).surface (ofElement 1))) := by
  have explores : ∀ op ∈ attended, op.explores = true := by decide
  have shown : (recorded attended).nodes.isVisible "b" = true := by decide +kernel
  have borne : (recorded attended).element? "b" = some 1 := by decide +kernel
  exact ⟨explores, shown, borne, shown_nodes_placed_unless_orphaned CallLog.moves (CallLog.empty ⟨800, 600⟩) .standard
    attended explores "b" 1 shown borne⟩

-- b comes after a was closed, and is shown when a is opened and expanded once more.
def orphaned : List (Operation Float Nat Empty) :=
  [.openRoot ⟨⟨"a", none⟩, [⟨"a", "b", "knows"⟩]⟩, .expand "a" .outbound, .collapse "a",
    .redeem ⟨"b", 1⟩ (.ok ⟨⟨"b", none⟩, []⟩), .openRoot ⟨⟨"a", none⟩, [⟨"a", "b", "knows"⟩]⟩, .expand "a" .outbound]

theorem orphaned_node_never_placed :
    (∀ op ∈ orphaned, op.explores = true) ∧ (recorded orphaned).nodes.isVisible "b" = true ∧
      (recorded orphaned).element? "b" = some 1 ∧
      CallLog.moves.count (recorded orphaned).surface (ofElement 1) = 0 := by
  have explores : ∀ op ∈ orphaned, op.explores = true := by decide
  have shown : (recorded orphaned).nodes.isVisible "b" = true := by decide +kernel
  have borne : (recorded orphaned).element? "b" = some 1 := by decide +kernel
  have unmoved : CallLog.moves.count (recorded orphaned).surface (ofElement 1) = 0 := by decide +kernel
  exact ⟨explores, shown, borne, unmoved⟩

end GraphBrowser.Explorer
