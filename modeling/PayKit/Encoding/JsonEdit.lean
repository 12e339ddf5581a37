import PayKit.Encoding.JsonValue

/-!
# Edits of JSON objects

Members are removed from an object and from the objects in it, and values are compared. What an
edit leaves is told by the members that it leaves.
-/

namespace PayKit.Encoding.Json

/-! ### Equality -/

mutual

theorem same_refl (json : Json) : same json json = true := by
  cases json with
  | array items => exact sameItems_refl items
  | object members => exact sameMembers_refl members
  | null => rfl
  | bool value => exact decide_eq_true rfl
  | unsigned value => exact decide_eq_true rfl
  | negative value => exact decide_eq_true rfl
  | float value => exact decide_eq_true rfl
  | text value => exact decide_eq_true rfl

theorem sameItems_refl (items : List Json) : sameItems items items = true := by
  cases items with
  | nil => rfl
  | cons item rest => exact Bool.and_eq_true_iff.mpr ⟨same_refl item, sameItems_refl rest⟩

theorem sameMembers_refl (members : List (String × Json)) :
    sameMembers members members = true := by
  cases members with
  | nil => rfl
  | cons entry rest =>
      rcases entry with ⟨key, json⟩
      simp only [sameMembers, decide_true, Bool.true_and, Bool.and_eq_true]
      exact ⟨same_refl json, sameMembers_refl rest⟩

end

/-- Values are compared by what they hold. -/
theorem same_iff {left right : Value} : same left.1 right.1 = true ↔ left = right := by
  constructor
  · exact fun hSame => Subtype.ext (eq_of_same hSame)
  · rintro rfl
    exact same_refl left.1

theorem Value.ofMap_injective : Function.Injective Value.ofMap := by
  intro left right hSame
  exact Option.some.inj (congrArg Value.asMap hSame)

theorem Value.ofText_injective : Function.Injective Value.ofText := by
  intro left right hSame
  exact Json.text.inj (congrArg Subtype.val hSame)

/-! ### Members -/

namespace Map

variable {map : Map} {key name : String} {keys : List String} {change : Map → Map}

def removeAll (map : Map) (keys : List String) : Map :=
  keys.foldl remove map

@[simp]
theorem get?_removeAll :
    (map.removeAll keys).get? name = if name ∈ keys then none else map.get? name := by
  unfold removeAll
  induction keys generalizing map with
  | nil => rfl
  | cons first rest hInduction =>
      rw [List.foldl_cons, hInduction, get?_remove]
      by_cases hFirst : name = first
      · simp [hFirst]
      · simp [hFirst]

/-- The object under a key, if the value there is one. -/
def inner (map : Map) (key : String) : Option Map :=
  (map.get? key).bind Value.asMap

/-- Change the object under a key, where there is one. -/
def update (map : Map) (key : String) (change : Map → Map) : Map :=
  match map.inner key with
  | some found => map.insert key (.ofMap (change found))
  | none => map

theorem get?_update_of_ne (hOther : name ≠ key) :
    (map.update key change).get? name = map.get? name := by
  unfold update
  split
  · rw [get?_insert, if_neg hOther]
  · rfl

@[simp]
theorem inner_update : (map.update key change).inner key = (map.inner key).map change := by
  unfold update
  split
  · rename_i found hFound
    rw [inner, get?_insert, if_pos rfl, hFound]
    rfl
  · rename_i hNone
    rw [hNone]
    rfl

/-- What is under a key is an object, when the map keeps one there. -/
theorem get?_of_inner {object : Map} (hInner : map.inner key = some object) :
    map.get? key = some (.ofMap object) := by
  rcases Option.bind_eq_some_iff.mp hInner with ⟨value, hValue, hObject⟩
  rw [hValue, Value.asMap_eq_some.mp hObject]

theorem inner_of_get? {object : Map} (hValue : map.get? key = some (.ofMap object)) :
    map.inner key = some object := by
  rw [inner, hValue]
  rfl

theorem inner_remove_of_ne (hOther : key ≠ name) : (map.remove name).inner key = map.inner key := by
  rw [inner, get?_remove, if_neg hOther]
  rfl

end Map

end PayKit.Encoding.Json
