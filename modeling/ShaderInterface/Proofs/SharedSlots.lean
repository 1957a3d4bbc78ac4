import Mathlib.Data.Finset.Card
import ShaderInterface.Introspection.Tabulated
import ShaderInterface.Proofs.Warnings

/-!
# Shared slots

A reflection that succeeds warns of each buffer or image that takes the slot of an earlier one, and
of nothing else. The earlier one that is named is the latest with that slot, so three resources in
one slot make two warnings, which link the first to the second and the second to the third. Whatever
is bound to no slot has no part in this.
-/

namespace ShaderInterface

/-! ## Repeated slots -/

/-- The places at which a list has a slot that it has at an earlier place too. -/
def repeatedPlaces (slots : List Slot) : List Nat :=
  (List.range slots.length).filter fun place => ∃ earlier < place, slots[earlier]? = slots[place]?

theorem repeatedPlaces_append_singleton (slots : List Slot) (slot : Slot) :
    repeatedPlaces (slots ++ [slot]) =
      repeatedPlaces slots ++ if slot ∈ slots then [slots.length] else [] := by
  have hearlier : ∀ place ∈ List.range slots.length,
      decide (∃ earlier < place, (slots ++ [slot])[earlier]? = (slots ++ [slot])[place]?) =
        decide (∃ earlier < place, slots[earlier]? = slots[place]?) := by
    intro place hplace
    have hplace := List.mem_range.mp hplace
    apply decide_eq_decide.mpr
    apply exists_congr
    intro earlier
    apply and_congr_right
    intro hlt
    rw [List.getElem?_append_left hplace, List.getElem?_append_left (hlt.trans hplace)]
  have hlast : (∃ earlier < slots.length,
      (slots ++ [slot])[earlier]? = (slots ++ [slot])[slots.length]?) ↔ slot ∈ slots := by
    rw [List.getElem?_concat_length, List.mem_iff_getElem?]
    constructor
    · intro hshared
      obtain ⟨earlier, hlt, hsame⟩ := hshared
      exact ⟨earlier, List.getElem?_append_left hlt ▸ hsame⟩
    · intro hmem
      obtain ⟨earlier, hsame⟩ := hmem
      obtain ⟨hlt, -⟩ := List.getElem?_eq_some_iff.mp hsame
      exact ⟨earlier, hlt, (List.getElem?_append_left hlt).trans hsame⟩
  rw [repeatedPlaces, List.length_append, List.length_singleton, List.range_succ,
    List.filter_append, List.filter_congr hearlier, List.filter_singleton, ← repeatedPlaces]
  by_cases hmem : slot ∈ slots
  · rw [if_pos hmem, decide_eq_true (hlast.mpr hmem), cond_true]
  · rw [if_neg hmem, decide_eq_false (hmem ∘ hlast.mp), cond_false]

/-- Every slot that is not new at its place is counted once more than it is different. -/
theorem length_repeatedPlaces_add_card (slots : List Slot) :
    (repeatedPlaces slots).length + slots.toFinset.card = slots.length := by
  induction slots using List.reverseRecOn with
  | nil => rfl
  | append_singleton slots slot ih =>
      rw [repeatedPlaces_append_singleton, List.toFinset_append, List.length_append,
        List.length_append, List.length_singleton]
      by_cases hmem : slot ∈ slots
      · have hsame : slots.toFinset ∪ [slot].toFinset = slots.toFinset := by
          apply Finset.union_eq_left.mpr
          simpa using hmem
        rw [if_pos hmem, hsame, List.length_singleton]
        omega
      · have hmore : (slots.toFinset ∪ [slot].toFinset).card = slots.toFinset.card + 1 := by
          apply Finset.card_union_of_disjoint
          simpa using hmem
        rw [if_neg hmem, hmore, List.length_nil]
        omega

theorem repeatedPlaces_eq_nil_iff (slots : List Slot) :
    repeatedPlaces slots = [] ↔ slots.Nodup := by
  have hcount := length_repeatedPlaces_add_card slots
  constructor
  · intro hnil
    rw [hnil, List.length_nil, Nat.zero_add] at hcount
    exact Multiset.toFinset_card_eq_card_iff_nodup.mp hcount
  · intro hnodup
    rw [List.toFinset_card_of_nodup hnodup] at hcount
    exact List.eq_nil_of_length_eq_zero (by omega)

/-! ## Warnings about shared slots -/

/-- The two resources share a slot. The later one is at the place, the earlier one is the latest
before it in that slot. -/
structure SharesSlot (bindings : List Binding) (place : Nat) (earlier later : Binding) : Prop where
  atPlace : bindings[place]? = some later
  latest : ∃ former < place, bindings[former]? = some earlier ∧ earlier.slot = later.slot ∧
    ∀ between other, former < between → between < place → bindings[between]? = some other →
      other.slot ≠ later.slot

/-- The entry is the warning about the resource at the place. -/
def IsWarningAt (bindings : List Binding) (place : Nat) (entry : Entry) : Prop :=
  ∃ earlier later, SharesSlot bindings place earlier later ∧
    entry = ⟨.warn, s!"`{earlier.name}` and `{later.name}` share set {later.slot.set}, " ++
      s!"binding {later.slot.binding}"⟩

/-- There is one warning for each resource that takes the slot of an earlier one, in their order. -/
structure WarnsOfSharedSlots (bindings : List Binding) (warnings : List Entry) : Prop where
  inOrder : List.Forall₂ (IsWarningAt bindings) (repeatedPlaces (bindings.map Binding.slot))
    warnings
  /-- Of each slot there is one resource that takes it first, and all others are warned of. -/
  count : warnings.length + (bindings.map Binding.slot).toFinset.card = bindings.length
  none_iff : warnings = [] ↔ (bindings.map Binding.slot).Nodup

/-- How many warnings there are follows from which there are. -/
theorem warnsOfSharedSlots_of_forall₂ {bindings : List Binding} {warnings : List Entry}
    (hall : List.Forall₂ (IsWarningAt bindings) (repeatedPlaces (bindings.map Binding.slot))
      warnings) : WarnsOfSharedSlots bindings warnings where
  inOrder := hall
  count := by
    rw [← hall.length_eq, length_repeatedPlaces_add_card, List.length_map]
  none_iff := by
    rw [← repeatedPlaces_eq_nil_iff, ← List.length_eq_zero_iff, ← hall.length_eq,
      List.length_eq_zero_iff]

theorem SharesSlot.append {bindings : List Binding} {place : Nat} {earlier later : Binding}
    (hshares : SharesSlot bindings place earlier later) (rest : List Binding) :
    SharesSlot (bindings ++ rest) place earlier later := by
  obtain ⟨hlater, former, hlt, hformer, hslot, hbetween⟩ := hshares
  obtain ⟨hplace, -⟩ := List.getElem?_eq_some_iff.mp hlater
  constructor
  case atPlace =>
    rw [List.getElem?_append_left hplace]
    exact hlater
  case latest =>
    refine ⟨former, hlt, ?_, hslot, ?_⟩
    · rw [List.getElem?_append_left (hlt.trans hplace)]
      exact hformer
    · intro between other hafter hbefore hother
      rw [List.getElem?_append_left (hbefore.trans hplace)] at hother
      exact hbetween between other hafter hbefore hother

/-- Going back from the end, the first resource that is found in a slot is the latest one there. -/
theorem sharesSlot_of_find? {bindings : List Binding} {earlier later : Binding}
    (hfind : bindings.reverse.find? (·.slot = later.slot) = some earlier) :
    SharesSlot (bindings ++ [later]) bindings.length earlier later := by
  obtain ⟨hslot, after, before, hsplit, hafter⟩ := List.find?_eq_some_iff_append.mp hfind
  have hbindings : bindings = before.reverse ++ earlier :: after.reverse := by
    rw [← List.reverse_reverse bindings, hsplit]
    simp
  constructor
  case atPlace => exact List.getElem?_concat_length
  case latest =>
    refine ⟨before.reverse.length, ?_, ?_, of_decide_eq_true hslot, ?_⟩
    · rw [hbindings]
      simp
    · rw [hbindings, List.append_assoc, List.getElem?_append_right (Nat.le_refl _), Nat.sub_self]
      rfl
    · intro between other hformer hplace hother
      rw [List.getElem?_append_left hplace, hbindings,
        List.getElem?_append_right (Nat.le_of_lt hformer)] at hother
      obtain ⟨offset, hoffset⟩ := Nat.exists_eq_add_of_lt hformer
      have hindex : between - before.reverse.length = offset + 1 := by omega
      rw [hindex, List.getElem?_cons_succ] at hother
      have hmem : other ∈ after := List.mem_reverse.mp (List.mem_of_getElem? hother)
      simpa using hafter other hmem

namespace Reflection

theorem sharedSlotNotesFrom_append_singleton (taken bindings : List Binding) (binding : Binding) :
    sharedSlotNotesFrom taken (bindings ++ [binding]) = sharedSlotNotesFrom taken bindings ++
      (((bindings.reverse ++ taken).find? (·.slot = binding.slot)).map
        (sharedSlotNote · binding)).toList := by
  induction bindings generalizing taken with
  | nil =>
      simp only [List.nil_append, sharedSlotNotesFrom, List.reverse_nil]
      cases taken.find? (·.slot = binding.slot) <;> rfl
  | cons first bindings ih =>
      simp only [List.cons_append, sharedSlotNotesFrom, ih, List.reverse_cons, List.append_assoc]
      cases taken.find? (·.slot = first.slot) <;> rfl

/-- Each note is the warning about the next place at which a slot is repeated. -/
theorem forall₂_sharedSlotNotesFrom (bindings : List Binding) :
    List.Forall₂ (IsWarningAt bindings) (repeatedPlaces (bindings.map Binding.slot))
      ((sharedSlotNotesFrom [] bindings).map (Entry.mk .warn)) := by
  -- by induction from the end: one more resource leaves the places and notes before it alone
  induction bindings using List.reverseRecOn with
  | nil => exact .nil
  | append_singleton bindings binding ih =>
      rw [List.map_append, List.map_singleton, repeatedPlaces_append_singleton,
        sharedSlotNotesFrom_append_singleton, List.append_nil, List.length_map, List.map_append]
      apply List.rel_append
      · apply ih.imp
        intro place entry hwarning
        obtain ⟨earlier, later, hshares, hentry⟩ := hwarning
        exact ⟨earlier, later, hshares.append [binding], hentry⟩
      · cases hfind : bindings.reverse.find? (·.slot = binding.slot) with
        | none =>
            have hnot : binding.slot ∉ bindings.map Binding.slot := by
              simpa using hfind
            rw [if_neg hnot]
            exact .nil
        | some earlier =>
            have hmem : binding.slot ∈ bindings.map Binding.slot := by
              have hslot : earlier.slot = binding.slot := by simpa using List.find?_some hfind
              rw [← hslot]
              exact List.mem_map_of_mem (List.mem_reverse.mp (List.mem_of_find?_eq_some hfind))
            rw [if_pos hmem]
            exact .cons ⟨earlier, binding, sharesSlot_of_find? hfind, rfl⟩ .nil

end Reflection

namespace Reflector

variable {reflector : Reflector}

/-- The warnings of a reflection that succeeds are about the buffers and images that take the slot
of an earlier one, in the order of the lists. Push constants and stage inputs have no part in them:
with others in their stead the warnings are the same. -/
theorem reflect_warnsOfSharedSlots {code : List UInt8} {reflection : Reflection}
    (hreflect : (reflector.reflect code).outcome = .ok reflection) :
    WarnsOfSharedSlots
        (reflection.uniformBuffers.map (fun buffer => ⟨buffer.slot, buffer.name⟩) ++
          reflection.storageBuffers.map (fun buffer => ⟨buffer.slot, buffer.variableName⟩) ++
          reflection.sampledImages.map (fun image => ⟨image.slot, image.name⟩) ++
          reflection.storageImages.map (fun image => ⟨image.slot, image.name⟩))
        (reflector.reflect code).warnings ∧
      ∀ (other : Reflector) (pushConstants : List PushConstantBlock)
        (stageInputs : List StageInput),
        (other.reflect code).outcome = .ok { reflection with pushConstants, stageInputs } →
          (other.reflect code).warnings = (reflector.reflect code).warnings := by
  constructor
  · rw [warnings_reflect hreflect]
    exact warnsOfSharedSlots_of_forall₂ (Reflection.forall₂_sharedSlotNotesFrom reflection.bindings)
  · intro other pushConstants stageInputs hother
    rw [warnings_reflect hreflect, warnings_reflect hother]
    rfl

/-- A module whose buffers and images crowd in two slots. Any other resources come before them. -/
def crowdedSlots (others : List (ResourceKind × Resource)) : TabulatedModule where
  resources := others ++ [(.sampledImage, ⟨7, 3, 3, "albedo"⟩),
    (.uniformBuffer, ⟨4, 1, 1, "frame"⟩), (.uniformBuffer, ⟨5, 1, 1, "lights"⟩),
    (.storageImage, ⟨8, 3, 3, "target"⟩), (.storageBuffer, ⟨6, 1, 1, "particles"⟩)]
  types := .ofRows [(1, ⟨.struct, 1, 1, [], 1, none⟩), (2, ⟨.float32, 1, 1, [], 2, none⟩),
    (3, ⟨.image, 1, 1, [], 3, some 2⟩)]
  members := .ofRows [(1, [2])]
  names := .ofRows [(6, "particles")]
  decorations := .ofRows [((6, Decoration.binding), some 1), ((8, Decoration.binding), some 1)]
  structSizes := .ofRows [(1, 4)]
  memberSizes := .ofRows [((1, 0), 4)]

/-- The module under reflection. -/
def crowdedReflector (others : List (ResourceKind × Resource)) : Reflector where
  module := (crowdedSlots others).introspection

/-- What there is to report about the module. -/
def crowdedReflection : Reflection where
  entryPoint := "none"
  version := ⟨0, 0⟩
  code := []
  uniformBuffers := [⟨"frame", ⟨0, 0⟩, [⟨"unnamed", .float, 0, 4, 1⟩], 4⟩,
    ⟨"lights", ⟨0, 0⟩, [⟨"unnamed", .float, 0, 4, 1⟩], 4⟩]
  storageBuffers := [⟨"particles", "", ⟨0, 1⟩, 4, .readWrite,
    [⟨⟨"unnamed", .float, 0, 4, 1⟩, 1⟩]⟩]
  sampledImages := [⟨"albedo", ⟨0, 0⟩, .float⟩]
  storageImages := [⟨"target", ⟨0, 1⟩, .float⟩]

theorem reflect_warnsOfSharedSlots_crowdedSlots :
    ((crowdedReflector []).reflect []).outcome = .ok crowdedReflection ∧
      WarnsOfSharedSlots
        [⟨⟨0, 0⟩, "frame"⟩, ⟨⟨0, 0⟩, "lights"⟩, ⟨⟨0, 1⟩, "particles"⟩, ⟨⟨0, 0⟩, "albedo"⟩,
          ⟨⟨0, 1⟩, "target"⟩]
        [⟨.warn, "`frame` and `lights` share set 0, binding 0"⟩,
          ⟨.warn, "`lights` and `albedo` share set 0, binding 0"⟩,
          ⟨.warn, "`particles` and `target` share set 0, binding 1"⟩] ∧
      ((crowdedReflector [(.pushConstant, ⟨9, 1, 1, "frame"⟩),
          (.stageInput, ⟨10, 2, 2, "color"⟩)]).reflect []).warnings =
        ((crowdedReflector []).reflect []).warnings := by
  have hreflect : ((crowdedReflector []).reflect []).outcome = .ok crowdedReflection := by
    decide +kernel
  have hwarnings : ((crowdedReflector []).reflect []).warnings =
      [⟨.warn, "`frame` and `lights` share set 0, binding 0"⟩,
        ⟨.warn, "`lights` and `albedo` share set 0, binding 0"⟩,
        ⟨.warn, "`particles` and `target` share set 0, binding 1"⟩] := by
    decide +kernel
  obtain ⟨hwarns, hothers⟩ := reflect_warnsOfSharedSlots hreflect
  refine ⟨hreflect, hwarnings ▸ hwarns, ?_⟩
  apply hothers _ [⟨"frame", [⟨"unnamed", .float, 0, 4, 1⟩], 4⟩] [⟨"color", 0, .float, 1⟩]
  decide +kernel

end Reflector

end ShaderInterface
