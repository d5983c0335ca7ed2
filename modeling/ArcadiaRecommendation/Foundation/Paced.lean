import Mathlib.Data.List.Basic

/-! Lists in which every item keeps a distance from the one before it, and the distance may
depend on the place. -/
namespace ArcadiaRecommendation
variable {A : Type}

def Paced (apart : Nat → A → A → Prop) (items : List A) : Prop :=
  ∀ place first second, items[place]? = some first → items[place + 1]? = some second → apart place first second

theorem paced_nil (apart : Nat → A → A → Prop) : Paced apart [] := by
  intro place first second found
  cases found

theorem Paced.append {apart : Nat → A → A → Prop} {items : List A} (paced : Paced apart items) (item : A)
    (last : ∀ before ∈ items.getLast?, apart (items.length - 1) before item) : Paced apart (items ++ [item]) := by
  intro place first second found next
  rcases Nat.lt_trichotomy (place + 1) items.length with inside | edge | outside
  · rw [List.getElem?_append_left (by omega)] at found
    rw [List.getElem?_append_left inside] at next
    exact paced place first second found next
  · rw [List.getElem?_append_left (by omega)] at found
    rw [List.getElem?_append_right (by omega),edge,Nat.sub_self] at next
    cases Option.some.inj next
    have place_eq : place = items.length - 1 := by omega
    rw [place_eq] at found ⊢
    exact last first (by rw [List.getLast?_eq_getElem?,found]; rfl)
  · have beyond : (items ++ [item]).length ≤ place + 1 := by
      rw [List.length_append,List.length_singleton]
      omega
    rw [List.getElem?_eq_none beyond] at next
    cases next

end ArcadiaRecommendation
