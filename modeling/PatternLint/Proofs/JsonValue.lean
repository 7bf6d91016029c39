import Mathlib.Algebra.Group.Nat.Defs
import PatternLint.JsonValue
import PatternLint.Proofs.Entries

/-! Objects and the keys in them.
A shape says where a value is expected to hold objects, and which keys are known there.  Along a
shape the same data can be written in other ways, with the keys of an object in another order or
with further keys, and known keys can be taken away. -/

namespace PatternLint

namespace JsonValue

/-- What a reader looks at: a value as a whole, the items of an array, or known keys of an
object. -/
inductive Shape where
  | plain
  | items (each : Shape)
  | record (fields : List (String × Shape))

/-- The same data with one object written differently: its keys, which are all different, in another
order, or one more key that is not known there. -/
inductive Respelled : Shape → JsonValue → JsonValue → Prop
  | reordered {fields : List (String × Shape)} {es es' : List (String × JsonValue)} :
      (es.map Prod.fst).Nodup → es.Perm es' → Respelled (.record fields) (.object es) (.object es')
  | extended {fields : List (String × Shape)} {es : List (String × JsonValue)} {key : String}
      (v : JsonValue) : key ∉ fields.map Prod.fst → key ∉ es.map Prod.fst →
      Respelled (.record fields) (.object es) (.object ((key, v) :: es))
  | field {fields : List (String × Shape)} {key : String} {shape : Shape} {v v' : JsonValue}
      {before after : List (String × JsonValue)} : (key, shape) ∈ fields →
      key ∉ before.map Prod.fst → Respelled shape v v' →
      Respelled (.record fields) (.object (before ++ (key, v) :: after))
        (.object (before ++ (key, v') :: after))
  | item {each : Shape} {v v' : JsonValue} {before after : List JsonValue} : Respelled each v v' →
      Respelled (.items each) (.array (before ++ v :: after)) (.array (before ++ v' :: after))

/-- A value without one of its known keys, named by the keys that lead to it. -/
inductive Removed : Shape → List String → JsonValue → JsonValue → Prop
  | here {fields : List (String × Shape)} {key : String} {es : List (String × JsonValue)} :
      key ∈ fields.map Prod.fst →
      Removed (.record fields) [key] (.object es) (.object (es.filter fun e => e.1 != key))
  | field {fields : List (String × Shape)} {key : String} {shape : Shape} {path : List String}
      {v v' : JsonValue} {before after : List (String × JsonValue)} : (key, shape) ∈ fields →
      key ∉ before.map Prod.fst → Removed shape path v v' →
      Removed (.record fields) (key :: path) (.object (before ++ (key, v) :: after))
        (.object (before ++ (key, v') :: after))
  | item {each : Shape} {path : List String} {v v' : JsonValue} {before after : List JsonValue} :
      Removed each path v v' →
      Removed (.items each) path (.array (before ++ v :: after)) (.array (before ++ v' :: after))

theorem Respelled.shape_ne_plain {shape : Shape} {v v' : JsonValue} (h : Respelled shape v v') :
    shape ≠ .plain := by
  cases h <;> exact Shape.noConfusion

theorem Removed.shape_ne_plain {shape : Shape} {path : List String} {v v' : JsonValue}
    (h : Removed shape path v v') : shape ≠ .plain := by
  cases h <;> exact Shape.noConfusion

def items? : JsonValue → Option (List JsonValue)
  | .array items => some items
  | _ => none

@[simp]
theorem items?_eq_some_iff {v : JsonValue} {items : List JsonValue} :
    v.items? = some items ↔ v = .array items := by
  cases v <;> simp [items?]

section Readers

variable {α : Type} {fields : List (String × Shape)} {read : JsonValue → Option α}

/-- A reader of objects that goes by what it finds under the known keys, and under each of them does
not mind how it is spelled. -/
theorem Respelled.read_eq
    (hknown : ∀ {es es' : List (String × JsonValue)},
      (∀ key ∈ fields.map Prod.fst, es.lookup key = es'.lookup key) →
      read (.object es) = read (.object es'))
    (hfield : ∀ {key : String} {shape : Shape} {v v' : JsonValue}
      {before after : List (String × JsonValue)}, (key, shape) ∈ fields →
      key ∉ before.map Prod.fst → Respelled shape v v' →
      read (.object (before ++ (key, v) :: after)) = read (.object (before ++ (key, v') :: after)))
    {v v' : JsonValue} (h : Respelled (.record fields) v v') : read v = read v' := by
  cases h with
  | reordered hd hperm => exact hknown fun key _ => lookup_eq_of_perm hd hperm key
  | extended w hunknown hnew =>
    refine hknown fun key hkey => (lookup_cons_of_ne w ?_).symm
    rintro rfl
    exact hunknown hkey
  | field hkey hfirst h => exact hfield hkey hfirst h

theorem Removed.read_eq_none
    (hmissing : ∀ {key : String} {es : List (String × JsonValue)}, key ∈ fields.map Prod.fst →
      es.lookup key = none → read (.object es) = none)
    (hfield : ∀ {key : String} {shape : Shape} {path : List String} {v v' : JsonValue}
      {before after : List (String × JsonValue)}, (key, shape) ∈ fields →
      key ∉ before.map Prod.fst → Removed shape path v v' →
      read (.object (before ++ (key, v') :: after)) = none)
    {path : List String} {v v' : JsonValue} (h : Removed (.record fields) path v v') :
    read v' = none := by
  cases h with
  | here hkey => exact hmissing hkey (lookup_filter_self _ _)
  | field hkey hfirst h => exact hfield hkey hfirst h

theorem mapM_replace {item item' : JsonValue} (before after : List JsonValue)
    (h : read item = read item') :
    (before ++ item :: after).mapM read = (before ++ item' :: after).mapM read := by
  simp [List.mapM_append, List.mapM_cons, h]

theorem mapM_eq_none {item : JsonValue} (before after : List JsonValue) (h : read item = none) :
    (before ++ item :: after).mapM read = none := by
  simp [List.mapM_append, List.mapM_cons, h]

end Readers

theorem count?_integer {n : Nat} (h : n < 2 ^ 64) : count? (.integer n) = some n := by
  have hrange : 0 ≤ (n : Int) ∧ (n : Int) < 0x10000000000000000 := by omega
  rw [count?, if_pos hrange, Int.toNat_natCast]

end JsonValue

end PatternLint
