import GraphBrowser.Proofs.Refusing

set_option autoImplicit false

namespace GraphBrowser

open Json

namespace Reader

theorem members_taken (members : List (String × List Char)) (texts : List (List Char))
    (written : Members members texts) : List.Forall₂ (Taken .object) texts (members.map Prod.fst) := by
  obtain ⟨wellformed, named⟩ := written
  rw [List.forall₂_map_right_iff]
  refine ((List.forall₂_and_left members texts).mpr ⟨wellformed, named⟩).flip.imp ?_
  rintro text m ⟨valid, key, spells, member⟩
  exact member_taken m.1 key m.2 text spells.read member (wellformed_read m.2 valid)

theorem values_taken (values : List (List Char)) (wellformed : ∀ v ∈ values, Wellformed v) :
    List.Forall₂ (Taken .array) values (values.map fun _ => "node") := by
  rw [List.forall₂_map_right_iff, List.forall₂_same]
  exact fun v member => element_taken v (wellformed v member) (wellformed_read v (wellformed v member))

theorem doubled_refused (d : Draft) (object longer : List Char) (form : d.form = .object)
    (doubled : Doubled d.keys object longer) :
    ∃ tail, longer = '{' :: tail ∧ ∀ rest, ∃ e, (Reader.opened d).run (tail ++ rest) = .error e := by
  cases doubled with | member before behind k v _ texts _ extended _ _ known present written listed =>
  obtain ⟨xs, ys, zs, v₁, v₂, split⟩ := twice_present before behind k v present
  rw [split] at written
  obtain ⟨earlier, later, rfl, first, second⟩ := matching_split _ _ texts written.2
  cases second with | @cons _ text _ others named _ =>
  obtain ⟨front, back, leading, rfl⟩ := listed_split earlier others text extended listed
  have taken := members_taken _ earlier ⟨fun m member => written.1 m (List.mem_append_left _ member), first⟩
  refine ⟨front ++ (text ++ back) ++ ['}'], rfl, fun rest => ?_⟩
  simp only [List.append_assoc]
  rcases leading_met .object earlier _ front _ taken leading d _ form (.inl rfl) with refused | ⟨next, reached, passed⟩
  · exact refused
  · obtain ⟨e, grown, ready, knows⟩ := reached
    have read : e.key? k = none := knows k (by simp) (by rwa [grown.keys])
    obtain ⟨key, spells, member⟩ := named
    rw [passed]
    exact repeated_refused e next k key v₂ text _ (grown.form.trans form) ready spells.read member read

-- Nothing but a value for a field of a fragment may begin here.
def Due (field : FragmentDraft → Spot) (r : Reader) : Prop :=
  ∃ d, ∀ c next, isSpace c = false → c ≠ ']' → r.step c = .ok next → (Reader.value (field d)).step c = .ok next

theorem fragment_grown (form : Form) (e : Draft)
    (grown : (Draft.fragment ⟨form, none, none⟩).Grown e) : ∃ d, e = .fragment d ∧ d.form = form := by
  cases grown with | fragment _ d same => exact ⟨d, rfl, same⟩

theorem ready_element (d : Draft) (r : Reader) (c : Char) (form : d.form = .array) (ready : Ready d r)
    (space : isSpace c = false) (other : c ≠ ']') : r.step c = beginElement d c := by
  rcases ready_cases d r ready with rfl | rfl | ⟨rfl, _, full⟩
  · simp [step, space, form, other]
  · simp [step, space, form, other]
  · simp [step, space, other, beginElement, full]

theorem keyed_met (key : String) (members : List (String × List Char)) (texts : List (List Char))
    (w before name x y rest : List Char) (outside : Blank w) (written : Members members texts)
    (leading : Leading texts before) (spelled : Json.Spells key name) (beforeColon : Blank x) (behindColon : Blank y) :
    (Reader.value .fragment).Meets (w ++ '{' :: (before ++ (name ++ (x ++ ':' :: y)))) rest
      fun next => ∃ d spot, (Draft.fragment d).key? key = some spot ∧ next = .value spot := by
  refine meets_blank _ w _ rest (value_patient _) outside (meets_cons _ '{' _ rest fun next opened => ?_)
  obtain rfl : Reader.opened (.fragment ⟨.object, none, none⟩) = next := Except.ok.inj opened
  have taken := members_taken members texts written
  refine meets_append _ before _ rest (leading_met .object texts _ before _ taken leading _ _ rfl (.inl rfl)) ?_
  rintro next ⟨e, grown, ready, _⟩
  obtain ⟨d, rfl, form⟩ := fragment_grown .object e grown
  have named := run_key (.fragment d) next key name (x ++ ':' :: y ++ rest) form ready spelled.read
  rw [Meets, List.append_assoc, named]
  cases found : (Draft.fragment d).key? key with
  | none =>
      have patient : (Reader.repeated key).Patient := fun c space => by simp [step, space]
      exact meets_blank _ x _ rest patient beforeColon (meets_stopped _ ':' y rest (.duplicateField key) rfl)
  | some spot =>
      refine meets_blank _ x _ rest (colon_patient spot) beforeColon (meets_cons _ ':' y rest fun next divides => ?_)
      obtain rfl : Reader.value spot = next := Except.ok.inj divides
      exact meets_still _ y rest (value_patient spot) behindColon ⟨d, spot, found, rfl⟩

theorem node_met (before rest : List Char) (site : Fragment.Site "node" 0 before) :
    (Reader.value .fragment).Meets before rest (Due .node) := by
  cases site with
  | member members texts w before name x y outside written leading spelled beforeColon behindColon =>
      refine meets_imp _ _ rest ?_ (keyed_met "node" members texts w before name x y rest outside written leading spelled
        beforeColon behindColon)
      rintro _ ⟨d, spot, found, rfl⟩
      obtain rfl : spot = .node d := Draft.unread_some d.node _ spot found
      exact ⟨d, fun _ _ _ _ begun => begun⟩
  | element values w before outside wellformed leading here =>
      obtain rfl := List.eq_nil_of_length_eq_zero here
      cases leading with | start _ blank =>
      refine meets_blank _ w _ rest (value_patient _) outside (meets_cons _ '[' _ rest fun next opened => ?_)
      obtain rfl : Reader.opened (.fragment ⟨.array, none, none⟩) = next := Except.ok.inj opened
      refine meets_still _ before rest (listing.opened_patient _) blank ⟨⟨.array, none, none⟩, ?_⟩
      intro c next space other begun
      rw [ready_element _ _ c rfl (.inl rfl) space other] at begun
      simpa [beginElement, Draft.element?, step, space] using begun

theorem links_met (before rest : List Char) (site : Fragment.Site "links" 1 before) :
    (Reader.value .fragment).Meets before rest (Due .links) := by
  cases site with
  | member members texts w before name x y outside written leading spelled beforeColon behindColon =>
      refine meets_imp _ _ rest ?_ (keyed_met "links" members texts w before name x y rest outside written leading spelled
        beforeColon behindColon)
      rintro _ ⟨d, spot, found, rfl⟩
      obtain rfl : spot = .links d := Draft.unread_some d.links _ spot found
      exact ⟨d, fun _ _ _ _ begun => begun⟩
  | element values w before outside wellformed leading here =>
      obtain ⟨v, rfl⟩ := List.length_eq_one_iff.mp here
      refine meets_blank _ w _ rest (value_patient _) outside (meets_cons _ '[' _ rest fun next opened => ?_)
      obtain rfl : Reader.opened (.fragment ⟨.array, none, none⟩) = next := Except.ok.inj opened
      have taken := values_taken [v] wellformed
      refine meets_imp _ _ rest ?_ (leading_met .array [v] _ before rest taken leading _ _ rfl (.inl rfl))
      rintro next ⟨e, grown, ready, knows⟩
      obtain ⟨d, rfl, form⟩ := fragment_grown .array e grown
      refine ⟨d, fun c after space other begun => ?_⟩
      have node : d.node.isNone = false := by
        have read : (Draft.fragment d).key? "node" = none := knows "node" (by simp) (by simp [Draft.keys])
        cases node : d.node with
        | none =>
            rw [Draft.key?, if_pos rfl, node] at read
            cases read
        | some n => rfl
      rw [ready_element (.fragment d) _ c form ready space other, beginElement, Draft.element?, node] at begun
      cases links : d.links with
      | none => simpa [step, space, links] using begun
      | some read => simp [links] at begun

theorem place_met (keys : List String) (before rest : List Char) (place : Fragment.Place keys before) :
    (Reader.value .fragment).Meets (before ++ ['{']) rest
      fun next => ∃ d, d.form = .object ∧ d.keys = keys ∧ next = .opened d := by
  cases place with
  | fragment _ blank =>
      refine meets_blank _ before _ rest (value_patient _) blank (meets_cons _ '{' _ rest fun next opened => ?_)
      obtain rfl : Reader.opened (.fragment ⟨.object, none, none⟩) = next := Except.ok.inj opened
      exact .inr ⟨_, ⟨_, rfl, rfl, rfl⟩, rfl⟩
  | node before site =>
      refine meets_append _ before _ rest (node_met before _ site) ?_
      rintro next ⟨d, due⟩
      refine meets_cons _ '{' _ rest fun after begun => ?_
      obtain rfl : Reader.opened (.node ⟨.object, none, none, d⟩) = after :=
        Except.ok.inj (due '{' after rfl (by decide) begun)
      exact .inr ⟨_, ⟨_, rfl, rfl, rfl⟩, rfl⟩
  | link values outside before site wellformed leading =>
      rw [List.append_assoc]
      refine meets_append _ outside _ rest (links_met outside _ site) ?_
      rintro next ⟨d, due⟩
      refine meets_cons _ '[' _ rest fun after begun => ?_
      obtain rfl : Reader.opened (.links ⟨[], d⟩) = after := Except.ok.inj (due '[' after rfl (by decide) begun)
      have taken := values_taken values wellformed
      refine meets_append _ before _ rest (leading_met .array values _ before _ taken leading _ _ rfl (.inl rfl)) ?_
      rintro next ⟨e, grown, ready, _⟩
      cases grown with | links _ up _ =>
      refine meets_cons _ '{' _ rest fun after begun => ?_
      rw [ready_element _ _ '{' rfl ready rfl (by decide)] at begun
      obtain rfl : Reader.opened (.link ⟨.object, none, none, none, up⟩) = after := Except.ok.inj begun
      exact .inr ⟨_, ⟨_, rfl, rfl, rfl⟩, rfl⟩

theorem place_refused (keys : List String) (before object longer behind : List Char)
    (place : Fragment.Place keys before) (doubled : Doubled keys object longer) :
    ∃ e, (Reader.value .fragment).run (before ++ (longer ++ behind)) = .error e := by
  have shape : ∃ tail, longer = '{' :: tail := by
    cases doubled
    exact ⟨_, rfl⟩
  obtain ⟨tail, rfl⟩ := shape
  rw [List.cons_append, List.append_cons]
  rcases place_met keys before (tail ++ behind) place with refused | ⟨_, ⟨d, form, rfl, rfl⟩, passed⟩
  · exact refused
  · obtain ⟨_, same, refused⟩ := doubled_refused d object ('{' :: tail) form doubled
    cases same
    rw [passed]
    exact refused behind

end Reader

end GraphBrowser
