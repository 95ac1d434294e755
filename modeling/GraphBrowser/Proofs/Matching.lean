import Mathlib.Data.List.Forall2

set_option autoImplicit false

namespace GraphBrowser

theorem exists_matching {β γ : Type} (R : β → γ → Prop) (items : List γ) (matched : ∀ c ∈ items, ∃ b, R b c) :
    ∃ matching, List.Forall₂ R matching items := by
  induction items with
  | nil => exact ⟨[], .nil⟩
  | cons c rest ih =>
      obtain ⟨b, first⟩ := matched c List.mem_cons_self
      obtain ⟨others, rest⟩ := ih fun d member => matched d (List.mem_cons_of_mem c member)
      exact ⟨b :: others, .cons first rest⟩

section Matching

variable {β γ : Type} {R : β → γ → Prop} {matching : List β} {items : List γ}

theorem matching_left (matched : List.Forall₂ R matching items) : ∀ b ∈ matching, ∃ c ∈ items, R b c := by
  induction matched with
  | nil => exact fun b member => (by cases member)
  | cons first _ ih =>
      intro b member
      rcases List.mem_cons.mp member with rfl | later
      · exact ⟨_, List.mem_cons_self, first⟩
      · obtain ⟨c, found, related⟩ := ih b later
        exact ⟨c, List.mem_cons_of_mem _ found, related⟩

theorem matching_right (matched : List.Forall₂ R matching items) : ∀ c ∈ items, ∃ b ∈ matching, R b c := by
  intro c member
  obtain ⟨b, found, related⟩ := matching_left matched.flip c member
  exact ⟨b, found, related⟩

theorem matching_pairwise {P : γ → γ → Prop} {Q : β → β → Prop} (matched : List.Forall₂ R matching items)
    (ordered : items.Pairwise P) (carries : ∀ a b c d, R a c → R b d → P c d → Q a b) : matching.Pairwise Q := by
  induction matched with
  | nil => exact .nil
  | cons first rest ih =>
      obtain ⟨before, ordered⟩ := List.pairwise_cons.mp ordered
      refine List.pairwise_cons.mpr ⟨?_, ih ordered⟩
      intro b member
      obtain ⟨d, found, related⟩ := matching_left rest b member
      exact carries _ b _ d first related (before d found)

theorem matching_split (first second : List β) (items : List γ) (matched : List.Forall₂ R (first ++ second) items) :
    ∃ left right, items = left ++ right ∧ List.Forall₂ R first left ∧ List.Forall₂ R second right := by
  have left := List.forall₂_take first.length matched
  have right := List.forall₂_drop first.length matched
  rw [List.take_left] at left
  rw [List.drop_left] at right
  exact ⟨_, _, (List.take_append_drop first.length items).symm, left, right⟩

end Matching

end GraphBrowser
