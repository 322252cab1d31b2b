import BinancePlatform.Source.Python
import Mathlib.Data.List.Perm.Subperm

/-!
# Python equality of values

`==` compares numbers of any class by value, lists item by item and dictionaries
without regard to the order of their entries.
-/

set_option autoImplicit false

namespace BinancePlatform.Source
open BinancePlatform.Library

/-- `x == value` for an exact number. -/
def equalsNumber (x : ℚ) : Value → Bool
  | .bool b => decide (x = if b then 1 else 0)
  | .int n => decide (x = n)
  | .float (.finite negative magnitude) =>
    decide (x = if negative then -(magnitude : ℚ) else magnitude)
  | _ => false

def equalsFloat (x : PyFloat) (value : Value) : Bool :=
  match x with
  | .nan => false
  | .infinite negative =>
    match value with
    | .float (.infinite other) => negative = other
    | _ => false
  | .finite negative magnitude =>
    equalsNumber (if negative then -(magnitude : ℚ) else magnitude) value

/-- A dictionary against the comparison of each of its entries. -/
def allEqual (own : List (String × (Value → Bool))) (others : Document) : Bool :=
  decide (own.length = others.items.length)
    && own.all fun e => (others.get? e.1).elim false e.2

namespace Value

mutual

/-- `a == b`. -/
def equals : Value → Value → Bool
  | .none, other => match other with
    | .none => true
    | _ => false
  | .bool b, other => equalsNumber (if b then 1 else 0) other
  | .int n, other => equalsNumber n other
  | .float x, other => equalsFloat x other
  | .str s, other => other.isStr s
  | .list items, other => match other with
    | .list others => equalsItems items others
    | _ => false
  | .dict entries, other => match other with
    | .dict others => equalsDict entries others
    | _ => false

def equalsDict : Dict String Value → Document → Bool
  | ⟨entries⟩, others => allEqual (Dict.dedupe (comparers entries)) others

def equalsItems : List Value → List Value → Bool
  | [], others => others.isEmpty
  | item :: rest, others => match others with
    | [] => false
    | other :: more => item.equals other && equalsItems rest more

def comparers : List (String × Value) → List (String × (Value → Bool))
  | [] => []
  | entry :: rest => comparer entry :: comparers rest

def comparer : String × Value → String × (Value → Bool)
  | (key, value) => (key, fun other => value.equals other)

end

end Value

theorem comparers_eq (entries : List (String × Value)) :
    Value.comparers entries = entries.map fun e => (e.1, fun other => e.2.equals other) := by
  induction entries with
  | nil => rfl
  | cons e rest ih =>
    obtain ⟨key, value⟩ := e
    rw [Value.comparers, Value.comparer, ih]
    rfl

theorem equalsDict_eq (d e : Document) :
    Value.equalsDict d e
      = allEqual (d.items.map fun entry => (entry.1, fun other => entry.2.equals other)) e := by
  obtain ⟨entries⟩ := d
  rw [Value.equalsDict, comparers_eq]
  exact congrArg (allEqual · e) (Dict.dedupe_map (fun (v other : Value) => v.equals other) entries)

/-- Equal dictionaries have the same keys, with equal values. -/
theorem equals_entries {d e : Document} (same : Value.equalsDict d e = true) (key : String) :
    (d.get? key = none ∧ e.get? key = none)
      ∨ ∃ a b, d.get? key = some a ∧ e.get? key = some b ∧ a.equals b = true := by
  rw [equalsDict_eq, allEqual, Bool.and_eq_true, decide_eq_true_eq, List.length_map,
    List.all_eq_true] at same
  obtain ⟨sizes, agree⟩ := same
  have matched : ∀ k a, d.get? k = some a → ∃ b, e.get? k = some b ∧ a.equals b = true := by
    intro k a stored
    have shown := agree (k, fun other => a.equals other)
      (List.mem_map.mpr ⟨(k, a), (Dict.mem_items _ _ _).mpr stored, rfl⟩)
    cases found : e.get? k with
    | none => simp [found] at shown
    | some b => exact ⟨b, rfl, by simpa [found] using shown⟩
  have subset : d.keys ⊆ e.keys := by
    intro k member
    obtain ⟨a, stored⟩ := Option.isSome_iff_exists.mp ((Dict.mem_keys _ _).mp member)
    obtain ⟨b, found, -⟩ := matched k a stored
    exact (Dict.mem_keys _ _).mpr (by rw [found]; rfl)
  -- equally many distinct keys, so no key of `e` is left over
  have permuted : d.keys.Perm e.keys :=
    (d.keys_nodup.subperm subset).perm_of_length_le (by
      rw [Dict.length_keys, Dict.length_keys]
      exact sizes.ge)
  cases stored : d.get? key with
  | some a =>
    obtain ⟨b, found, equal⟩ := matched key a stored
    exact .inr ⟨a, b, rfl, found, equal⟩
  | none =>
    refine .inl ⟨rfl, ?_⟩
    cases found : e.get? key with
    | none => rfl
    | some b =>
      have member := permuted.mem_iff.mpr ((Dict.mem_keys e key).mpr (by rw [found]; rfl))
      rw [Dict.mem_keys, stored] at member
      cases member

theorem equals_str {s : String} {other : Value} (same : (Value.str s).equals other = true) :
    other = .str s := by
  rw [Value.equals] at same
  cases other with
  | str t => exact congrArg Value.str ((Value.isStr_str t s).mp same).symm
  | _ => cases same

theorem str_equals {value : Value} {s : String} (same : value.equals (.str s) = true) :
    value = .str s := by
  cases value with
  | str t =>
    rw [Value.equals] at same
    rw [(Value.isStr_str s t).mp same]
  | float x => cases x <;> simp [Value.equals, equalsFloat, equalsNumber] at same
  | _ => simp [Value.equals, equalsNumber] at same

/-! ## A value and itself -/

/-- A dictionary equals itself if every value does. -/
theorem equalsDict_self {d : Document} :
    Value.equalsDict d d = true ↔ ∀ key value, d.get? key = some value → value.equals value = true := by
  rw [equalsDict_eq, allEqual, Bool.and_eq_true, decide_eq_true_eq, List.length_map, List.all_eq_true]
  constructor
  · rintro ⟨-, agree⟩ key value stored
    have shown := agree (key, fun other => value.equals other)
      (List.mem_map.mpr ⟨(key, value), (Dict.mem_items _ _ _).mpr stored, rfl⟩)
    simpa [stored] using shown
  · intro agree
    refine ⟨rfl, ?_⟩
    intro entry member
    obtain ⟨⟨key, value⟩, inItems, rfl⟩ := List.mem_map.mp member
    have stored := (Dict.mem_items _ _ _).mp inItems
    simp [stored, agree key value stored]

theorem equals_self_str (s : String) : (Value.str s).equals (.str s) = true := by
  rw [Value.equals, Value.isStr_str]

end BinancePlatform.Source
