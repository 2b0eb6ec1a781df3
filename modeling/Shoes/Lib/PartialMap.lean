import Mathlib

/-!
# Partial maps that index each other

A partial map is a function into `Option`; inserting and removing a key is `Function.update`.
Two partial maps are inverse when each maps a key to a value exactly when the other maps that
value back to the key, as a table and its reverse index should; two partial maps have the same
keys when each has an entry exactly where the other has one. This module proves which updates
keep these relations.
-/

namespace PartialMap

variable {α β γ : Type} [DecidableEq α]

/-- `forward` and `backward` are inverse partial maps. -/
def Inverse (forward : α → Option β) (backward : β → Option α) : Prop :=
  ∀ a b, forward a = some b ↔ backward b = some a

/-- `first` and `second` have entries for the same keys. -/
def SameKeys (first : α → Option β) (second : α → Option γ) : Prop :=
  ∀ a, (first a).isSome = (second a).isSome

theorem sameKeys_update_some {first : α → Option β} {second : α → Option γ}
    (same : SameKeys first second) (a : α) (b : β) (c : γ) :
    SameKeys (Function.update first a (some b)) (Function.update second a (some c)) := by
  intro key
  by_cases here : key = a
  · subst here
    simp
  · simp [Function.update_of_ne here, same key]

theorem sameKeys_update_none {first : α → Option β} {second : α → Option γ}
    (same : SameKeys first second) (a : α) :
    SameKeys (Function.update first a none) (Function.update second a none) := by
  intro key
  by_cases here : key = a
  · subst here
    simp
  · simp [Function.update_of_ne here, same key]

theorem inverse_insert [DecidableEq β] {forward : α → Option β} {backward : β → Option α}
    (inverse : Inverse forward backward) {a : α} {b : β} (freshKey : forward a = none)
    (freshValue : backward b = none) :
    Inverse (Function.update forward a (some b)) (Function.update backward b (some a)) := by
  intro key value
  by_cases keyHere : key = a <;> by_cases valueHere : value = b
  · subst keyHere valueHere
    simp
  · subst keyHere
    have unmapped : backward value ≠ some key := fun mapped => by
      simp [(inverse key value).mpr mapped] at freshKey
    simp [Function.update_of_ne valueHere, Ne.symm valueHere, unmapped]
  · subst valueHere
    have unmapped : forward key ≠ some value := fun mapped => by
      simp [(inverse key value).mp mapped] at freshValue
    simp [Function.update_of_ne keyHere, Ne.symm keyHere, unmapped]
  · simp [Function.update_of_ne keyHere, Function.update_of_ne valueHere, inverse key value]

theorem inverse_erase [DecidableEq β] {forward : α → Option β} {backward : β → Option α}
    (inverse : Inverse forward backward) {a : α} {b : β} (paired : forward a = some b) :
    Inverse (Function.update forward a none) (Function.update backward b none) := by
  have back : backward b = some a := (inverse a b).mp paired
  intro key value
  by_cases keyHere : key = a <;> by_cases valueHere : value = b
  · subst keyHere valueHere
    simp
  · subst keyHere
    have unmapped : backward value ≠ some key := fun mapped => by
      simp [(inverse key value).mpr mapped] at paired
      exact valueHere paired
    simp [Function.update_of_ne valueHere, unmapped]
  · subst valueHere
    have unmapped : forward key ≠ some value := fun mapped => by
      simp [(inverse key value).mp mapped] at back
      exact keyHere back
    simp [Function.update_of_ne keyHere, unmapped]
  · simp [Function.update_of_ne keyHere, Function.update_of_ne valueHere, inverse key value]

end PartialMap
