import GraphBrowser.Proofs.LinkNames
import GraphBrowser.Proofs.Mirror
import Mathlib.Data.List.Induction

set_option autoImplicit false

namespace GraphBrowser.Explorer

variable {α : Type} [Coordinate α]

def texts (x : Explorer α (Scene α) Nat) (s d : String) : List String :=
  (x.between s d).map Connector.label

-- What any step does to the connector of a link: it stays as it is while the link stays visible, and it
-- is drawn with the names that the link has by then.
structure Redrawn (x y : Explorer α (Scene α) Nat) : Prop where
  kept : ∀ s d, x.links.isVisible s d = true → y.links.isVisible s d = true → y.texts s d = x.texts s d
  drawn : ∀ s d, x.links.isVisible s d = false → y.links.isVisible s d = true →
    y.texts s d = [",".intercalate (y.links.names s d)]

-- What the parts of a step do besides attaching and hiding. These two facts let them be chained.
structure Quiet (x y : Explorer α (Scene α) Nat) : Prop extends Redrawn x y where
  names : ∀ s d, y.links.names s d = x.links.names s d
  shown : ∀ s d, x.links.isVisible s d = true → y.links.isVisible s d = true

theorem redrawn_of_same (x y : Explorer α (Scene α) Nat) (texts : ∀ s d, y.texts s d = x.texts s d)
    (visible : ∀ s d, y.links.isVisible s d = x.links.isVisible s d) : Redrawn x y := by
  refine ⟨fun s d _ _ => texts s d, ?_⟩
  intro s d hidden shown
  rw [visible, hidden] at shown
  cases shown

theorem quiet_of_same (x y : Explorer α (Scene α) Nat) (texts : ∀ s d, y.texts s d = x.texts s d)
    (links : y.links = x.links) : Quiet x y := by
  refine ⟨redrawn_of_same x y texts ?_, ?_, ?_⟩
  · intro s d
    rw [links]
  · intro s d
    rw [links]
  · intro s d shown
    rw [links, shown]

theorem quiet_trans (x y z : Explorer α (Scene α) Nat) (first : Quiet x y) (second : Quiet y z) : Quiet x z := by
  refine ⟨⟨?_, ?_⟩, ?_, ?_⟩
  · intro s d before after
    have between := first.shown s d before
    rw [second.kept s d between after, first.kept s d before between]
  · intro s d before after
    cases between : y.links.isVisible s d with
    | false => exact second.drawn s d between after
    | true => rw [second.kept s d between after, first.drawn s d before between, second.names]
  · intro s d
    rw [second.names, first.names]
  · intro s d before
    exact second.shown s d (first.shown s d before)

theorem texts_congr (x y : Explorer α (Scene α) Nat) (elements : ∀ id, y.element? id = x.element? id)
    (connectors : y.surface.connectors = x.surface.connectors) (s d : String) : y.texts s d = x.texts s d := by
  rw [texts, between_congr x y elements connectors, texts]

theorem join_quiet (x : Explorer α (Scene α) Nat) (s d : String) (mirror : Mirror x) : Quiet x (x.join s d).2 := by
  rcases join_cases x s d with idle | ⟨source, destination, link, foundSource, _, foundDestination, _,
    known, invisible, joined⟩
  · rw [idle]
    exact quiet_of_same x x (fun _ _ => rfl) rfl
  · have sourceElement := element_of_get x s source foundSource
    have destinationElement := element_of_get x d destination foundDestination
    have hidden : x.links.isVisible s d = false := by
      rw [LinkTable.visible_of_get x.links s d link known, invisible]
    have between := joined_between x mirror s d source.element destination.element link.label
      (x.links.connect s d).2 sourceElement destinationElement
    have names (a b : String) : (x.links.connect s d).2.names a b = x.links.names a b :=
      LinkTable.connect_names x.links s d a b
    rw [joined]
    refine ⟨⟨?_, ?_⟩, names, ?_⟩
    · intro a b before _
      have elsewhere : ¬ (a = s ∧ b = d) := by
        rintro ⟨rfl, rfl⟩
        simp [hidden] at before
      rw [texts, between, if_neg elsewhere, texts]
    · intro a b before after
      have here : a = s ∧ b = d := by
        by_contra elsewhere
        have same : (x.links.connect s d).2.isVisible a b = x.links.isVisible a b := by
          rw [LinkTable.connect_visible, if_neg elsewhere]
        rw [same, before] at after
        cases after
      obtain ⟨rfl, rfl⟩ := here
      have nothing : x.between a b = [] := by
        apply List.eq_nil_of_length_eq_zero
        rw [mirror.drawn, hidden]
        rfl
      rw [texts, between, if_pos ⟨rfl, rfl⟩, nothing, names, LinkTable.names_of_get x.links a b link known]
      rfl
    · intro a b before
      rw [LinkTable.connect_visible]
      by_cases here : a = s ∧ b = d
      · simp [here, known]
      · rw [if_neg here, before]

theorem act_quiet (x y : Explorer α (Scene α) Nat) (act : Act x y) (mirror : Mirror x) : Quiet x y := by
  cases act with
  | reveal id =>
      refine quiet_of_same x _ (texts_congr x _ ?_ ?_) rfl
      · exact set_visible_element x (x.reveal id) id true (reveal_nodes x id)
      · exact Scene.revealed_connectors x.surface x.nodes id
  | join s d => exact join_quiet x s d mirror
  | move element offset =>
      exact quiet_of_same x _ (texts_congr x _ (fun _ => rfl) (Scene.change_connectors x.surface element _)) rfl
  | note layout scatter pending failures issued => exact quiet_of_same x _ (fun _ _ => rfl) rfl

theorem acts_quiet (x y : Explorer α (Scene α) Nat) (acts : Acts x y) (mirror : Mirror x) : Quiet x y := by
  have both : Mirror y ∧ Quiet x y := by
    induction acts with
    | refl => exact ⟨mirror, quiet_of_same x x (fun _ _ => rfl) rfl⟩
    | tail _ last ih =>
        obtain ⟨middle, quiet⟩ := ih
        exact ⟨act_mirror _ _ last middle, quiet_trans x _ _ quiet (act_quiet _ _ last middle)⟩
  exact both.2

theorem attach_texts (x : Explorer α (Scene α) Nat) (mirror : Mirror x) (fragment : Fragment) (s d : String) :
    (x.attach fragment).2.texts s d = x.texts s d := by
  rw [texts, attached_between x mirror, texts]

theorem growth_redrawn (x y : Explorer α (Scene α) Nat) (growth : Growth x y) (mirror : Mirror x) : Redrawn x y := by
  cases growth with
  | acts _ steps => exact (acts_quiet x y steps mirror).toRedrawn
  | attach pending fragment _ after =>
      have pendingMirror := pending_mirror x pending mirror
      have quiet := acts_quiet _ y after (attach_mirror _ fragment pendingMirror)
      have visible := attach_link_visible { x with pending } fragment
      refine ⟨?_, ?_⟩
      · intro s d before shown
        rw [quiet.kept s d ((visible s d).trans before) shown, attach_texts _ pendingMirror]
        rfl
      · intro s d before shown
        exact quiet.drawn s d ((visible s d).trans before) shown
  | hidden pending fragment fresh =>
      have pendingMirror := pending_mirror x pending mirror
      refine redrawn_of_same x _ ?_ (attach_link_visible { x with pending } fragment)
      intro s d
      have hide : ((attach { x with pending } fragment).2.hide fragment.id).texts s d =
          (attach { x with pending } fragment).2.texts s d :=
        texts_congr _ _ (set_visible_element _ _ fragment.id false (hide_nodes _ fragment.id))
          (Scene.hidden_connectors _ _ fragment.id) s d
      rw [hide, attach_texts _ pendingMirror]
      rfl

theorem collapse_redrawn (x : Explorer α (Scene α) Nat) (id : String) (mirror : Mirror x) :
    Redrawn x (x.collapse id).2 := by
  cases known : x.nodes[id]? with
  | none =>
      rw [collapse_unknown x id known]
      exact redrawn_of_same x x (fun _ _ => rfl) (fun _ _ => rfl)
  | some node =>
      refine ⟨?_, ?_⟩
      · intro s d _ shown
        have away : ¬ (s = id ∨ d = id) := by
          rw [collapse_visible x id node known] at shown
          rintro (rfl | rfl) <;> simp at shown
        rw [texts, collapsed_between x mirror id node known, if_neg away, texts]
      · intro s d hidden shown
        rw [collapse_visible x id node known, hidden] at shown
        cases shown

theorem perform_redrawn (x : Explorer α (Scene α) Nat) (op : Operation α Nat (Scene.Adjustment α))
    (mirror : Mirror x) : Redrawn x (x.perform op) := by
  rcases perform_cases x op with growth | ⟨id, collapsed⟩ | ⟨change, adjusted⟩
  · exact growth_redrawn x _ growth mirror
  · rw [collapsed]
    exact collapse_redrawn x id mirror
  · rw [adjusted]
    exact redrawn_of_same x _
      (texts_congr x _ (fun _ => rfl) (Scene.adjusted_connectors x.surface change)) (fun _ _ => rfl)

structure DrawnBy (x : Explorer α (Scene α) Nat) (before : List (Operation α Nat (Scene.Adjustment α)))
    (op : Operation α Nat (Scene.Adjustment α)) (after : List (Operation α Nat (Scene.Adjustment α)))
    (s d : String) : Prop where
  hidden : (x.run before).links.isVisible s d = false
  since : ∀ done, done <+: after → (x.run (before ++ op :: done)).links.isVisible s d = true

theorem run_texts (x : Explorer α (Scene α) Nat) (mirror : Mirror x)
    (bare : ∀ s d, x.links.isVisible s d = false) (ops : List (Operation α Nat (Scene.Adjustment α)))
    (s d : String) (shown : (x.run ops).links.isVisible s d = true) :
    ∃ before op after, ops = before ++ op :: after ∧ DrawnBy x before op after s d ∧
      (x.run ops).texts s d = [",".intercalate ((x.run (before ++ [op])).links.names s d)] := by
  induction ops using List.reverseRecOn with
  | nil =>
      have hidden : x.links.isVisible s d = true := shown
      rw [bare] at hidden
      cases hidden
  | append_singleton ops op ih =>
      have redrawn := perform_redrawn (x.run ops) op (run_keeps Mirror perform_mirror x ops mirror)
      rw [run_snoc] at shown
      cases earlier : (x.run ops).links.isVisible s d with
      | false =>
          refine ⟨ops, op, [], rfl, ⟨earlier, ?_⟩, ?_⟩
          · intro done started
            rw [List.prefix_nil.mp started, run_snoc, shown]
          · rw [run_snoc, redrawn.drawn s d earlier shown]
      | true =>
          obtain ⟨before, first, after, rfl, drawn, text⟩ := ih earlier
          refine ⟨before, first, after ++ [op], by simp, ⟨drawn.hidden, ?_⟩, ?_⟩
          · intro done started
            rcases List.prefix_concat_iff.mp started with rfl | sooner
            · rw [← List.cons_append, ← List.append_assoc, run_snoc, shown]
            · exact drawn.since done sooner
          · rw [run_snoc, redrawn.kept s d earlier shown, text]

theorem connector_text_dates_from_drawing (size : Size α) (settings : Settings α)
    (ops : List (Operation α Nat (Scene.Adjustment α))) (c : Connector)
    (drawn : c ∈ ((Explorer.new (Scene.empty size) settings).run ops).surface.connectors) :
    let x : Explorer α (Scene α) Nat := Explorer.new (Scene.empty size) settings
    ∃ link ∈ (x.run ops).links.toList, link.visible = true ∧
      (x.run ops).element? link.source = some c.source ∧
      (x.run ops).element? link.destination = some c.target ∧
      ∃ before op after first, ops = before ++ op :: after ∧
        DrawnBy x before op after link.source link.destination ∧
        (x.run (before ++ [op])).links.get? link.source link.destination = some first ∧
        c.label = first.label ∧ first.names <+: link.names ∧
        (c.label = link.label ↔ first.names = link.names) := by
  intro x
  have mirror : Mirror (x.run ops) := run_mirror size settings ops
  obtain ⟨link, ⟨known, visible, source, target⟩, _⟩ := connector_link (x.run ops) mirror c drawn
  have found := LinkTable.get_of_mem _ link known
  have shown : (x.run ops).links.isVisible link.source link.destination = true := by
    rw [LinkTable.visible_of_get _ _ _ link found, visible]
  obtain ⟨before, op, after, split, drawnBy, text⟩ :=
    run_texts x (new_mirror size settings) (fun _ _ => rfl) ops link.source link.destination shown
  have first_shown := drawnBy.since [] List.nil_prefix
  obtain ⟨first, firstFound, _⟩ := (LinkTable.visible_iff _ _ _).mp first_shown
  have label : c.label = first.label := by
    have member : c.label ∈ (x.run ops).texts link.source link.destination := by
      refine List.mem_map.mpr ⟨c, List.mem_filter.mpr ⟨drawn, ?_⟩, rfl⟩
      simp [source, target]
    rw [text, LinkTable.names_of_get _ _ _ first firstFound] at member
    exact List.mem_singleton.mp member
  have grown : first.names <+: link.names := by
    have names := LinkTable.edits_names _ _ (run_edits (x.run (before ++ [op])) after) link.source link.destination
    rw [← run_append, List.append_assoc, List.singleton_append, ← split,
      LinkTable.names_of_get _ _ _ first firstFound, LinkTable.names_of_get _ _ _ link found] at names
    exact names
  have worded : first.names ≠ [] := run_named (Scene.empty size) settings (before ++ [op]) _ _ first firstFound
  refine ⟨link, known, visible, source, target, before, op, after, first, split, drawnBy, firstFound, label,
    grown, ?_, ?_⟩
  · intro same
    exact text_inj first.names link.names worded grown (label.symm.trans same)
  · intro same
    rw [label, Link.label, same, Link.label]

-- The connector from a to b is drawn when b arrives. The fragment of c names that link once more.
def renamed : List (Operation Float Nat (Scene.Adjustment Float)) :=
  [.openRoot ⟨⟨"a", none⟩, [⟨"a", "b", "knows"⟩]⟩, .expand "a" .outbound,
    .redeem ⟨"b", 1⟩ (.ok ⟨⟨"b", none⟩, [⟨"b", "c", "knows"⟩]⟩), .expand "b" .outbound,
    .redeem ⟨"c", 2⟩ (.ok ⟨⟨"c", none⟩, [⟨"a", "b", "friendOf"⟩]⟩)]

theorem renamed_connector_dates_from_drawing :
    ⟨0, 1, "knows"⟩ ∈ (session renamed).surface.connectors ∧
      ∃ link ∈ (session renamed).links.toList, link.visible = true ∧
        (session renamed).element? link.source = some 0 ∧ (session renamed).element? link.destination = some 1 ∧
        ∃ before op after first, renamed = before ++ op :: after ∧
          DrawnBy (session []) before op after link.source link.destination ∧
          (session (before ++ [op])).links.get? link.source link.destination = some first ∧
          "knows" = first.label ∧ first.names <+: link.names ∧
          ("knows" = link.label ↔ first.names = link.names) := by
  have drawn : ⟨0, 1, "knows"⟩ ∈ (session renamed).surface.connectors := by decide +kernel
  exact ⟨drawn, connector_text_dates_from_drawing ⟨800, 600⟩ .standard renamed ⟨0, 1, "knows"⟩ drawn⟩

theorem renamed_connector_misses_a_name :
    ¬ ∀ c ∈ (session renamed).surface.connectors, ∀ link ∈ (session renamed).links.toList,
      (session renamed).element? link.source = some c.source →
        (session renamed).element? link.destination = some c.target → c.label = link.label := by
  intro faithful
  have drawn : ⟨0, 1, "knows"⟩ ∈ (session renamed).surface.connectors := by decide +kernel
  have known : ⟨"a", "b", ["knows", "friendOf"], true⟩ ∈ (session renamed).links.toList := by decide +kernel
  have source : (session renamed).element? "a" = some 0 := by decide +kernel
  have target : (session renamed).element? "b" = some 1 := by decide +kernel
  have same := faithful _ drawn _ known source target
  revert same
  decide

end GraphBrowser.Explorer
