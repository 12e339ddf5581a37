import PayKit.Encoding.Json
import PayKit.Encoding.SortedMap
import Mathlib.Data.String.Basic

/-!
# JSON values with their members in order

`Value` and `Map` of `serde_json`, whose objects are ordered maps: the members of every object
stand in the order of their keys. Two values are the same up to their numbers when they become
equal once every number is replaced by the double that is next to it.
-/

namespace PayKit.Encoding.Json

mutual

/-- The members of every object are in the order of their keys. -/
def Ordered : Json → Prop
  | array items => OrderedItems items
  | object members => SortedKeys members ∧ OrderedMembers members
  | _ => True

def OrderedItems : List Json → Prop
  | [] => True
  | item :: items => Ordered item ∧ OrderedItems items

def OrderedMembers : List (String × Json) → Prop
  | [] => True
  | (_, json) :: members => Ordered json ∧ OrderedMembers members

end

mutual

/-- The value with the text of the nearest double in place of each number. -/
def rounded (double : Json → String) : Json → Json
  | unsigned value => float (double (unsigned value))
  | negative value => float (double (negative value))
  | float value => float (double (float value))
  | array items => array (roundedItems double items)
  | object members => object (roundedMembers double members)
  | null => null
  | bool value => bool value
  | text value => text value

def roundedItems (double : Json → String) : List Json → List Json
  | [] => []
  | item :: items => rounded double item :: roundedItems double items

def roundedMembers (double : Json → String) : List (String × Json) → List (String × Json)
  | [] => []
  | (key, json) :: members => (key, rounded double json) :: roundedMembers double members

end

mutual

/-- `Value::eq`. -/
def same : Json → Json → Bool
  | null, null => true
  | bool left, bool right => left = right
  | unsigned left, unsigned right => left = right
  | negative left, negative right => left = right
  | float left, float right => left = right
  | text left, text right => left = right
  | array left, array right => sameItems left right
  | object left, object right => sameMembers left right
  | _, _ => false

def sameItems : List Json → List Json → Bool
  | [], [] => true
  | left :: lefts, right :: rights => same left right && sameItems lefts rights
  | _, _ => false

def sameMembers : List (String × Json) → List (String × Json) → Bool
  | [], [] => true
  | (key, left) :: lefts, (other, right) :: rights =>
      decide (key = other) && same left right && sameMembers lefts rights
  | _, _ => false

end

variable {double : Json → String} {members : List (String × Json)} {items : List Json}
  {key : String} {json : Json}

theorem orderedItems_iff : OrderedItems items ↔ ∀ item ∈ items, Ordered item := by
  induction items with
  | nil => simp [OrderedItems]
  | cons item items hInduction => simp [OrderedItems, hInduction]

theorem orderedMembers_iff : OrderedMembers members ↔ ∀ entry ∈ members, Ordered entry.2 := by
  induction members with
  | nil => simp [OrderedMembers]
  | cons entry members hInduction => simp [OrderedMembers, hInduction]

theorem lookup_roundedMembers :
    (roundedMembers double members).lookup key = (members.lookup key).map (rounded double) := by
  induction members with
  | nil => simp [roundedMembers]
  | cons entry members hInduction =>
      rcases entry with ⟨other, json⟩
      simp only [roundedMembers, lookup_cons_eq, hInduction]
      split <;> rfl

/-- A value that is rounded to `null` is `null`. -/
theorem rounded_eq_null : rounded double json = null ↔ json = null := by
  cases json <;> simp [rounded]

theorem rounded_eq_text {value : String} : rounded double json = text value ↔ json = text value := by
  cases json <;> simp [rounded]

theorem rounded_eq_object {rest : List (String × Json)} :
    rounded double json = object rest ↔
      ∃ members, json = object members ∧ roundedMembers double members = rest := by
  cases json <;> simp [rounded]

mutual

theorem eq_of_same {left right : Json} (hSame : same left right = true) : left = right := by
  cases left <;> cases right <;> simp only [same, decide_eq_true_eq, Bool.false_eq_true] at hSame
  case null.null => rfl
  case array.array lefts rights => rw [eq_of_sameItems hSame]
  case object.object lefts rights => rw [eq_of_sameMembers hSame]
  all_goals rw [hSame]

theorem eq_of_sameItems {lefts rights : List Json} (hSame : sameItems lefts rights = true) :
    lefts = rights := by
  cases lefts <;> cases rights <;>
    simp only [sameItems, Bool.and_eq_true, Bool.false_eq_true] at hSame
  case nil.nil => rfl
  case cons.cons left lefts right rights =>
    rw [eq_of_same hSame.1, eq_of_sameItems hSame.2]

theorem eq_of_sameMembers {lefts rights : List (String × Json)}
    (hSame : sameMembers lefts rights = true) : lefts = rights := by
  cases lefts <;> cases rights <;>
    simp only [sameMembers, Bool.and_eq_true, decide_eq_true_eq, Bool.false_eq_true] at hSame
  case nil.nil => rfl
  case cons.cons left lefts right rights =>
    exact congrArg₂ List.cons (Prod.ext hSame.1.1 (eq_of_same hSame.1.2))
      (eq_of_sameMembers hSame.2)

end

/-! ### Values and maps -/

abbrev Value := {json : Json // json.Ordered}

abbrev Map := {members : List (String × Json) // (object members).Ordered}

/-- A text as a value. -/
def Value.ofText (value : String) : Value :=
  ⟨text value, trivial⟩

def Value.null : Value :=
  ⟨Json.null, trivial⟩

/-- `Value::Object`. -/
def Value.ofMap (map : Map) : Value :=
  ⟨object map.1, map.2⟩

/-- `Value::as_object`. -/
def Value.asMap : Value → Option Map
  | ⟨object members, hOrdered⟩ => some ⟨members, hOrdered⟩
  | _ => none

/-- `Value::as_array`. -/
def Value.asItems : Value → Option (List Value)
  | ⟨array items, hOrdered⟩ => some (items.attach.map fun item =>
      ⟨item.1, orderedItems_iff.mp hOrdered item.1 item.2⟩)
  | _ => none

namespace Map

theorem ordered_of_lookup (map : Map) (hFound : map.1.lookup key = some json) : json.Ordered :=
  orderedMembers_iff.mp map.2.2 _ (mem_of_lookup hFound)

def get? (map : Map) (key : String) : Option Value :=
  match hFound : map.1.lookup key with
  | some json => some ⟨json, map.ordered_of_lookup hFound⟩
  | none => none

/-- `Map::new`. -/
def empty : Map :=
  ⟨[], List.Pairwise.nil, trivial⟩

def insert (map : Map) (key : String) (value : Value) : Map :=
  ⟨insertEntry key value.1 map.1, map.2.1.insertEntry, orderedMembers_iff.mpr (by
    intro entry hEntry
    rcases mem_insertEntry hEntry with rfl | hEntry
    · exact value.2
    · exact orderedMembers_iff.mp map.2.2 entry hEntry)⟩

def remove (map : Map) (key : String) : Map :=
  ⟨removeEntry key map.1, map.2.1.removeEntry, orderedMembers_iff.mpr fun entry hEntry =>
    orderedMembers_iff.mp map.2.2 entry (List.mem_of_mem_filter hEntry)⟩

def isEmpty (map : Map) : Bool :=
  map.1.isEmpty

variable {map other : Map} {name : String} {value : Value}

theorem val_get? : (map.get? key).map Subtype.val = map.1.lookup key := by
  unfold get?
  split
  · rename_i hFound
    exact hFound.symm
  · rename_i hFound
    exact hFound.symm

theorem ext (hSame : ∀ key, map.get? key = other.get? key) : map = other := by
  apply Subtype.ext
  apply map.2.1.ext other.2.1
  intro key
  rw [← val_get?, ← val_get?, hSame key]

/-- A value is found by its JSON. -/
theorem get?_eq_of_lookup {found : Option Value}
    (hFound : map.1.lookup key = found.map Subtype.val) : map.get? key = found := by
  apply Option.map_injective Subtype.val_injective
  rw [val_get?, hFound]

@[simp]
theorem get?_empty : empty.get? key = none :=
  get?_eq_of_lookup rfl

@[simp]
theorem get?_insert :
    (map.insert key value).get? name = if name = key then some value else map.get? name := by
  apply get?_eq_of_lookup
  rw [insert, lookup_insertEntry, apply_ite (Option.map Subtype.val), val_get?]
  rfl

@[simp]
theorem get?_remove :
    (map.remove key).get? name = if name = key then none else map.get? name := by
  apply get?_eq_of_lookup
  rw [remove, lookup_removeEntry, apply_ite (Option.map Subtype.val), val_get?]
  rfl

theorem isEmpty_iff : map.isEmpty = true ↔ map = empty := by
  rw [isEmpty, List.isEmpty_iff]
  exact ⟨fun hNone => Subtype.ext hNone, fun hEmpty => congrArg Subtype.val hEmpty⟩

@[simp]
theorem insert_insert {replaced : Value} :
    (map.insert key replaced).insert key value = map.insert key value := by
  apply ext
  intro name
  simp only [get?_insert]
  split <;> rfl

@[simp]
theorem remove_insert : (map.insert key value).remove key = map.remove key := by
  apply ext
  intro name
  simp only [get?_remove, get?_insert]
  split <;> rfl

theorem remove_of_absent (hAbsent : map.get? key = none) : map.remove key = map := by
  apply ext
  intro name
  rw [get?_remove]
  split
  · rename_i hName
    rw [hName, hAbsent]
  · rfl

end Map

@[simp]
theorem Value.asMap_ofMap {map : Map} : (Value.ofMap map).asMap = some map :=
  rfl

theorem Value.asMap_eq_some {value : Value} {map : Map} :
    value.asMap = some map ↔ value = Value.ofMap map := by
  rcases value with ⟨json, hOrdered⟩
  cases json with
  | object members =>
      rw [asMap, Option.some.injEq]
      constructor
      · rintro rfl
        rfl
      · intro hValue
        exact Subtype.ext (object.inj (congrArg Subtype.val hValue))
  | _ =>
      constructor
      · intro hMap
        cases hMap
      · intro hValue
        cases congrArg Subtype.val hValue

end PayKit.Encoding.Json
