/-!
# Slots

Stores of values under slot numbers. A value stays in its slot until the slot is vacated, and a
vacated slot may be taken again. What is relied on is stated for any such store; the one in use
takes the slot that was vacated last.
-/

namespace PushBench

/-- Stores of values of any type under slot numbers. -/
class SlotStore (κ : Type → Type) where
  /-- A store without values. -/
  empty {β : Type} : κ β
  /-- Puts a value into a slot, and says into which. -/
  insert {β : Type} : κ β → β → Nat × κ β
  /-- The value in a slot. -/
  get? {β : Type} : κ β → Nat → Option β
  /-- Vacates a slot. -/
  erase {β : Type} : κ β → Nat → κ β
  /-- How many slots are taken. -/
  size {β : Type} : κ β → Nat

/-- What is relied on of a slot store: a value is put into a vacant slot, and putting in, looking up
and vacating concern one slot only. -/
class LawfulSlotStore (κ : Type → Type) [SlotStore κ] : Prop where
  get?_empty {β : Type} (slot : Nat) : SlotStore.get? (SlotStore.empty : κ β) slot = none
  get?_insert_fst {β : Type} (store : κ β) (value : β) :
    SlotStore.get? store (SlotStore.insert store value).1 = none
  get?_insert {β : Type} (store : κ β) (value : β) (slot : Nat) :
    SlotStore.get? (SlotStore.insert store value).2 slot =
      if slot = (SlotStore.insert store value).1 then some value else SlotStore.get? store slot
  get?_erase {β : Type} (store : κ β) (taken slot : Nat)
    (htaken : (SlotStore.get? store taken).isSome) :
    SlotStore.get? (SlotStore.erase store taken) slot =
      if slot = taken then none else SlotStore.get? store slot
  size_empty {β : Type} : SlotStore.size (SlotStore.empty : κ β) = 0
  size_insert {β : Type} (store : κ β) (value : β) :
    SlotStore.size (SlotStore.insert store value).2 = SlotStore.size store + 1
  size_erase {β : Type} (store : κ β) (taken : Nat)
    (htaken : (SlotStore.get? store taken).isSome) :
    SlotStore.size (SlotStore.erase store taken) + 1 = SlotStore.size store

/-- Values in slots that are numbered without gaps. -/
structure Slots (β : Type) where
  /-- The slots; `none` is vacant. -/
  slots : List (Option β)
  /-- The vacant slots, the one vacated last first. -/
  vacant : List Nat
  vacant_nodup : vacant.Nodup
  mem_vacant : ∀ slot, slot ∈ vacant ↔ slots[slot]? = some none

namespace Slots

variable {β : Type}

/-- No slots. -/
def empty : Slots β := ⟨[], [], .nil, by simp⟩

/-- How many slots are taken. -/
def size (store : Slots β) : Nat := store.slots.countP Option.isSome

/-- The value in a slot. -/
def get? (store : Slots β) (slot : Nat) : Option β := store.slots[slot]?.join

/-- Puts a value into the slot vacated last, or into a new one, and says into which. -/
def insert : Slots β → β → Nat × Slots β
  | ⟨slots, slot :: rest, hnodup, hvacant⟩, value =>
    (slot, {
      slots := slots.set slot (some value)
      vacant := rest
      vacant_nodup := (List.nodup_cons.mp hnodup).2
      mem_vacant := by
        intro other
        have hslot := (List.nodup_cons.mp hnodup).1
        by_cases hother : slot = other
        · subst hother
          simp [hslot, List.getElem?_set]
        · rw [List.getElem?_set_ne hother, ← hvacant other]
          simp [Ne.symm hother] })
  | ⟨slots, [], _, hvacant⟩, value =>
    (slots.length, {
      slots := slots ++ [some value]
      vacant := []
      vacant_nodup := .nil
      mem_vacant := by
        intro other
        have hother := hvacant other
        grind })

/-- Vacates a slot. Nothing happens to a slot that is vacant. -/
def erase (store : Slots β) (slot : Nat) : Slots β :=
  if htaken : (store.get? slot).isSome then
    { slots := store.slots.set slot none
      vacant := slot :: store.vacant
      vacant_nodup := by
        refine List.nodup_cons.mpr ⟨fun hvacant ↦ ?_, store.vacant_nodup⟩
        simp [get?, (store.mem_vacant slot).mp hvacant] at htaken
      mem_vacant := by
        intro other
        have hother := store.mem_vacant other
        have hlength : slot < store.slots.length := by
          rw [get?, Option.isSome_join] at htaken
          grind
        grind }
  else store

instance : SlotStore Slots := ⟨empty, insert, get?, erase, size⟩

/-- The slot that a value is put into is vacant or new. -/
theorem slots_insert_fst (store : Slots β) (value : β) :
    store.slots[(store.insert value).1]? = some none ∨
      (store.insert value).1 = store.slots.length := by
  rcases store with ⟨slots, vacant, hnodup, hvacant⟩
  cases vacant with
  | nil => exact .inr rfl
  | cons slot rest => exact .inl ((hvacant slot).mp List.mem_cons_self)

theorem get?_insert_fst (store : Slots β) (value : β) :
    store.get? (store.insert value).1 = none := by
  rcases store.slots_insert_fst value with hslot | hslot <;> simp [get?, hslot]

theorem get?_insert (store : Slots β) (value : β) (slot : Nat) :
    (store.insert value).2.get? slot =
      if slot = (store.insert value).1 then some value else store.get? slot := by
  rcases store with ⟨slots, vacant, hnodup, hvacant⟩
  cases vacant with
  | nil =>
    simp only [insert, get?, List.getElem?_append]
    grind
  | cons first rest =>
    have hlength : first < slots.length := by
      have hfirst := (hvacant first).mp List.mem_cons_self
      exact (List.getElem?_eq_some_iff.mp hfirst).1
    simp only [insert, get?, List.getElem?_set]
    grind

theorem slots_erase (store : Slots β) (taken : Nat) (htaken : (store.get? taken).isSome) :
    (store.erase taken).slots = store.slots.set taken none := by
  rw [erase, dif_pos htaken]

theorem get?_erase (store : Slots β) (taken slot : Nat) (htaken : (store.get? taken).isSome) :
    (store.erase taken).get? slot = if slot = taken then none else store.get? slot := by
  simp only [get?, store.slots_erase taken htaken, List.getElem?_set]
  grind

theorem size_insert (store : Slots β) (value : β) :
    (store.insert value).2.size = store.size + 1 := by
  rcases store with ⟨slots, vacant, hnodup, hvacant⟩
  cases vacant with
  | nil => simp [insert, size]
  | cons first rest =>
    obtain ⟨hlength, hfirst⟩ :=
      List.getElem?_eq_some_iff.mp ((hvacant first).mp List.mem_cons_self)
    simp [insert, size, List.countP_set, hlength, hfirst]

theorem size_erase (store : Slots β) (taken : Nat) (htaken : (store.get? taken).isSome) :
    (store.erase taken).size + 1 = store.size := by
  obtain ⟨value, hvalue⟩ := Option.isSome_iff_exists.mp htaken
  obtain ⟨hlength, hslot⟩ :=
    List.getElem?_eq_some_iff.mp (Option.join_eq_some_iff.mp hvalue)
  have hpositive : 0 < store.slots.countP Option.isSome :=
    List.countP_pos_iff.mpr ⟨some value, hslot ▸ List.getElem_mem hlength, rfl⟩
  simp only [size, store.slots_erase taken htaken, List.countP_set hlength, hslot,
    Option.isSome_some, Option.isSome_none, if_true, Bool.false_eq_true, if_false]
  omega

instance : LawfulSlotStore Slots where
  get?_empty _ := rfl
  get?_insert_fst := get?_insert_fst
  get?_insert := get?_insert
  get?_erase := get?_erase
  size_empty := rfl
  size_insert := size_insert
  size_erase := size_erase

end Slots

end PushBench
