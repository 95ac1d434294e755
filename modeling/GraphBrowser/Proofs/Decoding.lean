import GraphBrowser.Fragment.Refusal
import GraphBrowser.Proofs.Printing
import GraphBrowser.Proofs.Records

set_option autoImplicit false

namespace GraphBrowser

open Json

namespace Reader

def kept {β : Type} (keys : List String) (key : String) (value : β) : Option β :=
  if key ∈ keys then some value else none

theorem kept_fresh {β : Type} (keys : List String) (key : String) (value : β) (fresh : key ∉ keys) :
    kept keys key value = none := if_neg fresh

theorem kept_read {β : Type} (keys : List String) (key : String) (value : β) (read : key ∈ keys) :
    kept keys key value = some value := if_pos read

theorem kept_default {β : Type} (keys : List String) (key : String) (value default : β)
    (present : value = default ∨ key ∈ keys) : (kept keys key value).getD default = value := by
  rcases present with rfl | read
  · rw [kept]
    split <;> rfl
  · rw [kept_read keys key value read, Option.getD_some]

@[simp] theorem kept_last {β : Type} (keys : List String) (key : String) (value : β) :
    kept (keys ++ [key]) key value = some value := by simp [kept]

theorem kept_other {β : Type} (keys : List String) (key other : String) (value : β) (apart : other ≠ key) :
    kept (keys ++ [other]) key value = kept keys key value := by
  have same : key ∈ keys ++ [other] ↔ key ∈ keys := by simp [apart.symm]
  simp only [kept, same]

def linkDraft (l : LinkTriple) (up : LinksDraft) (form : Form) (keys : List String) : LinkDraft :=
  ⟨form, kept keys "source" l.source, kept keys "destination" l.destination, kept keys "name" l.name, up⟩

def linkDrafting (l : LinkTriple) (up : LinksDraft) :
    Drafting l.fields (.link up) (.after (.links { up with read := l :: up.read })) where
  draft form keys := .link (linkDraft l up form keys)
  opens_object := rfl
  opens_array := rfl
  form _ _ := rfl
  ignores keys key absent := by
    have other : key ≠ "source" ∧ key ≠ "destination" ∧ key ≠ "name" := by simpa [LinkTriple.fields] using absent
    simp [Draft.key?, other]
  forgets keys key absent := by
    have other : key ≠ "source" ∧ key ≠ "destination" ∧ key ≠ "name" := by simpa [LinkTriple.fields] using absent
    simp [linkDraft, kept_other, other]
  places i f here := by
    match i with
    | 0 =>
        obtain rfl := Option.some.inj here
        refine ⟨fun form keys => .source (linkDraft l up form keys), placed_text ?_ ?_ (fun _ _ => rfl) ?_⟩
        · intro keys fresh
          simp [Draft.key?, Draft.unread, linkDraft, kept_fresh _ _ _ fresh]
        · rintro _ rfl
          simp [Draft.element?, linkDraft, kept]
        · intro form keys
          simp [Spot.putText, linkDraft, kept_other]
    | 1 =>
        obtain rfl := Option.some.inj here
        refine ⟨fun form keys => .destination (linkDraft l up form keys), placed_text ?_ ?_ (fun _ _ => rfl) ?_⟩
        · intro keys fresh
          simp [Draft.key?, Draft.unread, linkDraft, kept_fresh _ _ _ fresh]
        · rintro _ rfl
          simp [Draft.element?, linkDraft, kept, LinkTriple.fields]
        · intro form keys
          simp [Spot.putText, linkDraft, kept_other]
    | 2 =>
        obtain rfl := Option.some.inj here
        refine ⟨fun form keys => .name (linkDraft l up form keys), placed_text ?_ ?_ (fun _ _ => rfl) ?_⟩
        · intro keys fresh
          simp [Draft.key?, Draft.unread, linkDraft, kept_fresh _ _ _ fresh]
        · rintro _ rfl
          simp [Draft.element?, linkDraft, kept, LinkTriple.fields]
        · intro form keys
          simp [Spot.putText, linkDraft, kept_other]
  closes form keys complete := by
    have present : "source" ∈ keys ∧ "destination" ∈ keys ∧ "name" ∈ keys := by
      simpa [LinkTriple.fields] using complete
    simp only [closed, Draft.close, linkDraft, kept_read _ _ _ present.1, kept_read _ _ _ present.2.1,
      kept_read _ _ _ present.2.2, Draft.require]
    rfl

def nodeDraft (n : NodeSummary) (up : FragmentDraft) (form : Form) (keys : List String) : NodeDraft :=
  ⟨form, kept keys "id" n.id, kept keys "label" n.label, up⟩

theorem leads_label (d : NodeDraft) (label : Option String) (text : List Char)
    (spells : NodeSummary.SpellsLabel label text) :
    Leads (.label d) text (.node { d with label := some label }) := by
  cases label with
  | none =>
      obtain rfl : text = null := spells
      exact ⟨⟨_, _, rfl, rfl, by decide⟩, fun _ _ => rfl⟩
  | some s => exact leads_text _ s text _ spells rfl rfl

def nodeDrafting (n : NodeSummary) (up : FragmentDraft) :
    Drafting n.fields (.node up) (.after (.fragment { up with node := some n })) where
  draft form keys := .node (nodeDraft n up form keys)
  opens_object := rfl
  opens_array := rfl
  form _ _ := rfl
  ignores keys key absent := by
    have other : key ≠ "id" ∧ key ≠ "label" := by simpa [NodeSummary.fields] using absent
    simp [Draft.key?, other]
  forgets keys key absent := by
    have other : key ≠ "id" ∧ key ≠ "label" := by simpa [NodeSummary.fields] using absent
    simp [nodeDraft, kept_other, other]
  places i f here := by
    match i with
    | 0 =>
        obtain rfl := Option.some.inj here
        refine ⟨fun form keys => .id (nodeDraft n up form keys), placed_text ?_ ?_ (fun _ _ => rfl) ?_⟩
        · intro keys fresh
          simp [Draft.key?, Draft.unread, nodeDraft, kept_fresh _ _ _ fresh]
        · rintro _ rfl
          simp [Draft.element?, nodeDraft, kept]
        · intro form keys
          simp [Spot.putText, nodeDraft, kept_other]
    | 1 =>
        obtain rfl := Option.some.inj here
        refine ⟨fun form keys => .label (nodeDraft n up form keys), ?_, ?_, ?_⟩
        · intro keys fresh
          simp [Draft.key?, Draft.unread, nodeDraft, kept_fresh _ _ _ fresh]
        · rintro _ rfl
          simp [Draft.element?, nodeDraft, kept, NodeSummary.fields]
        · intro form keys text spells
          simpa [nodeDraft, kept_other] using leads_label (nodeDraft n up form keys) n.label text spells
  closes form keys complete := by
    have present : "id" ∈ keys ∧ (n.label = none ∨ "label" ∈ keys) := by simpa [NodeSummary.fields] using complete
    simp only [closed, Draft.close, nodeDraft, Draft.require, kept_read _ _ _ present.1,
      kept_default _ _ _ _ present.2]
    rfl

-- By induction on the links; those that have been read stand before them, the last first.
theorem path_links (up : FragmentDraft) (read links : List LinkTriple) (records : List (List Char))
    (written : List.Forall₂ (fun (l : LinkTriple) record => Record l.fields record) links records) :
    listing.Path (.links ⟨read, up⟩) records (.links ⟨links.reverse ++ read, up⟩) := by
  induction written generalizing read with
  | nil => exact .nil _
  | @cons l record links records spelled _ ih =>
      have leads := leads_record l.fields _ _ (linkDrafting l ⟨read, up⟩) record spelled
      rw [List.reverse_cons, List.append_assoc]
      exact .cons _ _ _ record records (takes_element _ _ _ record rfl rfl leads) (ih (l :: read))

theorem leads_links (up : FragmentDraft) (links : List LinkTriple) (text : List Char)
    (spells : Fragment.SpellsLinks links text) :
    Leads (.links up) text (.fragment { up with links := some links }) := by
  obtain ⟨records, inner, written, listed, rfl⟩ := spells
  refine ⟨⟨_, _, rfl, rfl, by decide⟩, fun rest _ => ?_⟩
  have path := path_links up [] links records written
  rw [List.append_nil] at path
  have opens : (Reader.value (.links up)).step '[' = .ok (.opened (.links ⟨[], up⟩)) := rfl
  have closes : (Reader.after (.links ⟨links.reverse, up⟩)).step ']' =
      .ok (.after (.fragment { up with links := some links })) := by
    show closed (.links ⟨links.reverse, up⟩) = _
    simp only [closed, Draft.close, List.reverse_reverse]
    rfl
  have inside := listing.run_listed _ _ records inner ']' rest (by simp [Ends]) rfl listed path
  simp only [List.cons_append, List.append_assoc]
  rw [run_cons _ _ _ _ opens]
  exact inside.trans (run_cons _ _ _ _ closes)

def fragmentDraft (f : Fragment) (form : Form) (keys : List String) : FragmentDraft :=
  ⟨form, kept keys "node" f.node, kept keys "links" f.links⟩

def fragmentDrafting (f : Fragment) : Drafting f.fields .fragment (.done f) where
  draft form keys := .fragment (fragmentDraft f form keys)
  opens_object := rfl
  opens_array := rfl
  form _ _ := rfl
  ignores keys key absent := by
    have other : key ≠ "node" ∧ key ≠ "links" := by simpa [Fragment.fields] using absent
    simp [Draft.key?, other]
  forgets keys key absent := by
    have other : key ≠ "node" ∧ key ≠ "links" := by simpa [Fragment.fields] using absent
    simp [fragmentDraft, kept_other, other]
  places i g here := by
    match i with
    | 0 =>
        obtain rfl := Option.some.inj here
        refine ⟨fun form keys => .node (fragmentDraft f form keys), ?_, ?_, ?_⟩
        · intro keys fresh
          simp [Draft.key?, Draft.unread, fragmentDraft, kept_fresh _ _ _ fresh]
        · rintro _ rfl
          simp [Draft.element?, fragmentDraft, kept]
        · intro form keys text record
          have leads := leads_record f.node.fields _ _ (nodeDrafting f.node (fragmentDraft f form keys)) text record
          simpa [fragmentDraft, kept_other] using leads
    | 1 =>
        obtain rfl := Option.some.inj here
        refine ⟨fun form keys => .links (fragmentDraft f form keys), ?_, ?_, ?_⟩
        · intro keys fresh
          simp [Draft.key?, Draft.unread, fragmentDraft, kept_fresh _ _ _ fresh]
        · rintro _ rfl
          simp [Draft.element?, fragmentDraft, kept, Fragment.fields]
        · intro form keys text spells
          simpa [fragmentDraft, kept_other] using leads_links (fragmentDraft f form keys) f.links text spells
  closes form keys complete := by
    have present : "node" ∈ keys ∧ (f.links = [] ∨ "links" ∈ keys) := by simpa [Fragment.fields] using complete
    simp only [closed, Draft.close, fragmentDraft, Draft.require, kept_read _ _ _ present.1,
      kept_default _ _ _ _ present.2]
    rfl

end Reader

namespace Fragment

theorem spelling_is_decoded (f : Fragment) (text : String) (spells : f.Spells text) : decode text = .ok f := by
  obtain ⟨record, spelled, w, v, before, behind, same⟩ := spells
  have patient : (Reader.done f).Patient := fun c space => by simp [Reader.step, space]
  have taken : (Reader.value .fragment).run (record ++ v) = (Reader.done f).run v :=
    (Reader.fragmentDrafting f).run record spelled v
  have left : (Reader.done f).run v = .ok (.done f) := by
    have through := Reader.run_blank (.done f) v [] patient behind
    rwa [List.append_nil] at through
  have read : ofJson text = .ok f := by
    rw [ofJson, same, Reader.run_blank _ w _ (Reader.value_patient .fragment) before, taken, left]
    rfl
  rw [decode, read]
  rfl

theorem every_spelling_is_decoded (f : Fragment) :
    (∀ text, f.Spells text → decode text = .ok f) ∧ f.Spells f.toJson ∧ decode f.toJson = .ok f :=
  ⟨f.spelling_is_decoded, f.to_json_spells, f.spelling_is_decoded _ f.to_json_spells⟩

def smiling : Fragment := ⟨⟨"😀", none⟩, [⟨"\"", "é", "x"⟩]⟩

-- Behind a key that means nothing stand a number and a lone surrogate, the link is an array, the node follows
-- under an escaped key, and its identifier is a pair of surrogates.
def smilingText : String :=
  " \x7b\"seen\": [-1.5e3,\x7b\"\\ud800\":null\x7d ],\t\"links\":[[\"\\\"\",\"\\u00e9\",\"x\"]],\"n\\u006Fde\":" ++
    "[\"\\uD83D\\ude00\"]\x7d\n"

def smilingSeen : List Char :=
  let lone := '{' :: ("\"\\ud800\"".toList ++ ([] ++ ':' :: ([] ++ null))) ++ ['}']
  '[' :: ("-1.5e3".toList ++ ',' :: ([] ++ (lone ++ [' ']))) ++ [']']

def smilingLinks : List Char :=
  '[' :: ('[' :: ("\"\\\"\"".toList ++ ',' :: ("\"\\u00e9\"".toList ++ ',' :: "\"x\"".toList)) ++ [']']) ++ [']']

def smilingNode : List Char := '[' :: "\"\\uD83D\\ude00\"".toList ++ [']']

theorem smiling_seen_wellformed : Wellformed smilingSeen := by
  have number : Number "-1.5e3".toList :=
    ⟨['-'], ['1'], ['.', '5'], ['e', '3'], by decide, .counted _ (by decide) (by decide), .some _ (by decide),
      .some 'e' [] _ (by decide) (by decide) (by decide), rfl⟩
  have unit : Piece ['\\', 'u', 'd', '8', '0', '0'] := .unit 0xD800 ['d', '8', '0', '0'] (by decide)
  have key : Quoted "\"\\ud800\"".toList := ⟨[_], List.forall_mem_singleton.mpr unit, rfl⟩
  have lone : Wellformed ('{' :: ("\"\\ud800\"".toList ++ ([] ++ ':' :: ([] ++ null))) ++ ['}']) :=
    .object [("\"\\ud800\"".toList, null)] _ _ (List.forall_mem_singleton.mpr key)
      (List.forall_mem_singleton.mpr .null) (.cons (member_between _ [] [] _ (by decide) (by decide)) .nil)
      (.last _ _ (padded_self _))
  exact .array _ _ (List.forall_mem_cons.mpr ⟨.number _ number, List.forall_mem_singleton.mpr lone⟩)
    (.more _ _ _ _ _ (padded_self _) (.last _ _ (padded_between [] _ [' '] (by decide) (by decide))))

theorem smiling_links_spelled : SpellsLinks smiling.links smilingLinks := by
  have source : Json.Spells "\"" "\"\\\"\"".toList := ⟨[_], .cons (.short '"' '"' (by decide)) .nil, rfl⟩
  have destination : Json.Spells "é" "\"\\u00e9\"".toList :=
    ⟨[_], .cons (.unit 'é' ['0', '0', 'e', '9'] (by decide)) .nil, rfl⟩
  have name : Json.Spells "x" "\"x\"".toList := ⟨[_], .cons (.plain 'x' (by decide)) .nil, rfl⟩
  have record : Record (LinkTriple.fields ⟨"\"", "é", "x"⟩) _ :=
    .array _ [] [_, _, _] _ rfl (.cons source (.cons destination (.cons name .nil))) nofun
      (.more _ _ _ _ _ (padded_self _) (.more _ _ _ _ _ (padded_self _) (.last _ _ (padded_self _))))
  exact ⟨[_], _, .cons record .nil, .last _ _ (padded_self _), rfl⟩

theorem smiling_node_spelled : Record smiling.node.fields smilingNode := by
  have pair : Letter '😀' "\\uD83D\\ude00".toList :=
    .pair '😀' ['D', '8', '3', 'D'] ['d', 'e', '0', '0'] (by decide) (by decide) (by decide)
  have identifier : Json.Spells "😀" "\"\\uD83D\\ude00\"".toList := ⟨[_], .cons pair .nil, rfl⟩
  exact .array [_] [_] _ _ rfl (.cons identifier .nil) (List.forall_mem_singleton.mpr rfl) (.last _ _ (padded_self _))

theorem smiling_spelled : smiling.Spells smilingText := by
  have node : Json.Spells "node" "\"n\\u006Fde\"".toList :=
    ⟨[_, _, _, _], .cons (.plain 'n' (by decide)) (.cons (.unit 'o' ['0', '0', '6', 'F'] (by decide))
      (.cons (.plain 'd' (by decide)) (.cons (.plain 'e' (by decide)) .nil))), rfl⟩
  refine ⟨_, .object [("seen", smilingSeen), ("links", smilingLinks), ("node", smilingNode)] _ _ ?_ ?_ ?_ ?_
    (.cons ⟨_, string_spells "seen", member_between _ [] [' '] _ (by decide) (by decide)⟩
      (.cons ⟨_, string_spells "links", member_between _ [] [] _ (by decide) (by decide)⟩
        (.cons ⟨_, node, member_between _ [] [] _ (by decide) (by decide)⟩ .nil)))
    (.more _ _ _ _ _ (padded_self _) (.more _ _ _ _ _ (padded_between ['\t'] _ [] (by decide) (by decide))
      (.last _ _ (padded_self _)))), [' '], ['\n'], by decide, by decide, ?_⟩
  · simp [fields]
  · simp [fields]
  · simp [fields, smiling_node_spelled, smiling_links_spelled]
  · simp [fields, smiling_seen_wellformed]
  · rfl

theorem smiling_is_decoded : smiling.Spells smilingText ∧ decode smilingText = .ok smiling :=
  ⟨smiling_spelled, (every_spelling_is_decoded smiling).1 smilingText smiling_spelled⟩

end Fragment

end GraphBrowser
