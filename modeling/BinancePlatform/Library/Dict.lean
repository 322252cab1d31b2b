import Mathlib.Data.List.Basic
import Mathlib.Data.List.Nodup

/-!
# Insertion-ordered dictionaries

An association list read as a dictionary: the first entry of a key counts, an
assignment to a present key keeps its position, a new key goes to the end.
`collect` is the loop `for k, v in d.items(): out[k] = …` with its `continue`
branches. Everything is stated over arbitrary keys and values.
-/

set_option autoImplicit false

namespace BinancePlatform.Library

structure Dict (κ α : Type) where
  entries : List (κ × α)
  deriving DecidableEq, Repr

namespace Dict

variable {κ α β : Type} [DecidableEq κ]

def empty : Dict κ α := ⟨[]⟩

def find (k : κ) : List (κ × α) → Option α
  | [] => none
  | (k', v) :: rest => if k' = k then some v else find k rest

def get? (d : Dict κ α) (k : κ) : Option α := find k d.entries

def contains (d : Dict κ α) (k : κ) : Bool := (d.get? k).isSome

def setEntries (k : κ) (v : α) : List (κ × α) → List (κ × α)
  | [] => [(k, v)]
  | (k', v') :: rest => if k' = k then (k, v) :: rest else (k', v') :: setEntries k v rest

def set (d : Dict κ α) (k : κ) (v : α) : Dict κ α := ⟨setEntries k v d.entries⟩

def erase (d : Dict κ α) (k : κ) : Dict κ α := ⟨d.entries.filter fun e => e.1 ≠ k⟩

def dedupe : List (κ × α) → List (κ × α)
  | [] => []
  | e :: rest => e :: (dedupe rest).filter fun e' => e'.1 ≠ e.1

/-- The entries that count, in order. -/
def items (d : Dict κ α) : List (κ × α) := dedupe d.entries

def keys (d : Dict κ α) : List κ := d.items.map Prod.fst

def setAll (d : Dict κ α) (entries : List (κ × α)) : Dict κ α :=
  entries.foldl (fun out e => out.set e.1 e.2) d

/-- `{**d, **other}`. -/
def update (d other : Dict κ α) : Dict κ α := d.setAll other.items

/-- The entries a loop body keeps; a `none` of the body is a `continue`. -/
def kept (body : κ → α → Option β) (entries : List (κ × α)) : List (κ × β) :=
  entries.filterMap fun e => (body e.1 e.2).map fun w => (e.1, w)

/-- One loop over `items` that assigns into `out`. -/
def collect (body : κ → α → Option β) (d : Dict κ α) (out : Dict κ β) : Dict κ β :=
  out.setAll (kept body d.items)

/-- Equality of dictionaries, which ignores the order of the keys. -/
def Same (d e : Dict κ α) : Prop := ∀ k, d.get? k = e.get? k

theorem Same.refl (d : Dict κ α) : Same d d := fun _ => rfl

@[simp] theorem get?_empty (k : κ) : (empty : Dict κ α).get? k = none := rfl

theorem find_setEntries (entries : List (κ × α)) (k : κ) (v : α) (q : κ) :
    find q (setEntries k v entries) = if q = k then some v else find q entries := by
  induction entries with
  | nil =>
    by_cases h : q = k
    · simp [setEntries, find, h]
    · simp [setEntries, find, h, Ne.symm h]
  | cons head rest ih =>
    obtain ⟨k', v'⟩ := head
    by_cases hk : k' = k
    · subst hk
      by_cases hq : q = k'
      · simp [setEntries, find, hq]
      · simp [setEntries, find, hq, Ne.symm hq]
    · simp only [setEntries, if_neg hk, find, ih]
      by_cases hq : k' = q
      · subst hq
        simp [hk]
      · simp [hq]

theorem get?_set (d : Dict κ α) (k : κ) (v : α) (q : κ) :
    (d.set k v).get? q = if q = k then some v else d.get? q :=
  find_setEntries d.entries k v q

@[simp] theorem get?_set_self (d : Dict κ α) (k : κ) (v : α) : (d.set k v).get? k = some v := by
  rw [get?_set, if_pos rfl]

theorem get?_set_ne (d : Dict κ α) {k q : κ} (v : α) (h : q ≠ k) :
    (d.set k v).get? q = d.get? q := by
  rw [get?_set, if_neg h]

theorem find_filter_ne (entries : List (κ × α)) (k q : κ) :
    find q (entries.filter fun e => e.1 ≠ k) = if q = k then none else find q entries := by
  induction entries with
  | nil => simp [find]
  | cons head rest ih =>
    obtain ⟨k', v'⟩ := head
    by_cases hk : k' = k
    · subst hk
      rw [List.filter_cons_of_neg (by simp), ih]
      by_cases hq : q = k'
      · simp [hq]
      · simp [find, hq, Ne.symm hq]
    · rw [List.filter_cons_of_pos (by simpa using hk), find, find, ih]
      by_cases hq : k' = q
      · subst hq
        simp [hk]
      · simp [hq]

theorem get?_erase (d : Dict κ α) (k q : κ) :
    (d.erase k).get? q = if q = k then none else d.get? q :=
  find_filter_ne d.entries k q

theorem find_dedupe (entries : List (κ × α)) (q : κ) :
    find q (dedupe entries) = find q entries := by
  induction entries with
  | nil => rfl
  | cons head rest ih =>
    obtain ⟨k, v⟩ := head
    rw [dedupe, find, find, find_filter_ne, ih]
    by_cases hq : k = q
    · simp [hq]
    · simp [hq, Ne.symm hq]

theorem dedupe_map (f : α → β) (entries : List (κ × α)) :
    dedupe (entries.map fun e => (e.1, f e.2)) = (dedupe entries).map fun e => (e.1, f e.2) := by
  induction entries with
  | nil => rfl
  | cons head rest ih =>
    rw [List.map_cons, dedupe, dedupe, ih, List.map_cons, List.filter_map]
    rfl

theorem nodup_dedupe (entries : List (κ × α)) : ((dedupe entries).map Prod.fst).Nodup := by
  induction entries with
  | nil => simp [dedupe]
  | cons head rest ih =>
    simp only [dedupe, List.map_cons, List.nodup_cons]
    refine ⟨by simp [List.mem_map, List.mem_filter], ?_⟩
    exact ih.sublist (List.filter_sublist.map _)

theorem find_eq_none (entries : List (κ × α)) (k : κ) :
    find k entries = none ↔ k ∉ entries.map Prod.fst := by
  induction entries with
  | nil => simp [find]
  | cons head rest ih =>
    obtain ⟨k', v'⟩ := head
    by_cases hk : k' = k
    · simp [find, hk]
    · rw [find, if_neg hk, ih, List.map_cons, List.mem_cons]
      simp [Ne.symm hk]

theorem find_items (d : Dict κ α) (k : κ) : find k d.items = d.get? k :=
  find_dedupe d.entries k

theorem items_nodup (d : Dict κ α) : (d.items.map Prod.fst).Nodup := nodup_dedupe d.entries

theorem keys_nodup (d : Dict κ α) : d.keys.Nodup := d.items_nodup

@[simp] theorem length_keys (d : Dict κ α) : d.keys.length = d.items.length := List.length_map ..

theorem find_eq_some_iff_mem (entries : List (κ × α)) (nodup : (entries.map Prod.fst).Nodup)
    (k : κ) (v : α) : find k entries = some v ↔ (k, v) ∈ entries := by
  induction entries with
  | nil => simp [find]
  | cons head rest ih =>
    obtain ⟨k', v'⟩ := head
    obtain ⟨fresh, tail⟩ := List.nodup_cons.mp nodup
    by_cases hk : k' = k
    · subst hk
      have absent : (k', v) ∉ rest := fun member => fresh (List.mem_map.mpr ⟨_, member, rfl⟩)
      simp [find, absent, eq_comm]
    · simp [find, hk, Ne.symm hk, ih tail]

theorem mem_items (d : Dict κ α) (k : κ) (v : α) : (k, v) ∈ d.items ↔ d.get? k = some v := by
  rw [← find_items, find_eq_some_iff_mem _ d.items_nodup]

theorem mem_keys (d : Dict κ α) (k : κ) : k ∈ d.keys ↔ (d.get? k).isSome := by
  rw [Option.isSome_iff_exists]
  simp [keys, List.mem_map, mem_items]

theorem get?_setAll (entries : List (κ × α)) (nodup : (entries.map Prod.fst).Nodup)
    (d : Dict κ α) (k : κ) :
    (d.setAll entries).get? k = (find k entries).or (d.get? k) := by
  induction entries generalizing d with
  | nil => simp [setAll, find]
  | cons head rest ih =>
    obtain ⟨k', v'⟩ := head
    obtain ⟨fresh, tail⟩ := List.nodup_cons.mp nodup
    have step := ih tail (d.set k' v')
    simp only [setAll, List.foldl_cons] at step ⊢
    rw [step, get?_set, find]
    by_cases hk : k' = k
    · subst hk
      have absent : find k' rest = none := (find_eq_none rest k').mpr fresh
      simp [absent]
    · simp [hk, Ne.symm hk]

theorem get?_update (d other : Dict κ α) (k : κ) :
    (d.update other).get? k = (other.get? k).or (d.get? k) := by
  rw [update, get?_setAll _ other.items_nodup, find_items]

theorem mem_of_find {entries : List (κ × α)} {k : κ} {v : α} (found : find k entries = some v) :
    (k, v) ∈ entries := by
  induction entries with
  | nil => cases found
  | cons head rest ih =>
    obtain ⟨k', v'⟩ := head
    rw [find] at found
    split at found
    case isTrue same =>
      obtain rfl := Option.some.inj found
      exact same ▸ List.mem_cons_self
    case isFalse => exact List.mem_cons_of_mem _ (ih found)

theorem find_map (f : α → β) (entries : List (κ × α)) (k : κ) :
    find k (entries.map fun e => (e.1, f e.2)) = (find k entries).map f := by
  induction entries with
  | nil => rfl
  | cons head rest ih =>
    rw [List.map_cons, find, find, ih]
    split <;> rfl

theorem find_filter (keep : κ → α → Bool) (entries : List (κ × α))
    (nodup : (entries.map Prod.fst).Nodup) (k : κ) :
    find k (entries.filter fun e => keep e.1 e.2) = (find k entries).filter (keep k) := by
  induction entries with
  | nil => rfl
  | cons head rest ih =>
    obtain ⟨k', v'⟩ := head
    obtain ⟨fresh, tail⟩ := List.nodup_cons.mp nodup
    rw [List.filter_cons, find]
    by_cases hk : k' = k
    · subst hk
      have absent : find k' rest = none := (find_eq_none rest k').mpr fresh
      by_cases kept : keep k' v' = true
      · simp [find, kept, Option.filter]
      · simp [ih tail, absent, kept, Option.filter]
    · rw [if_neg hk]
      split
      · rw [find, if_neg hk, ih tail]
      · exact ih tail

omit [DecidableEq κ] in
theorem kept_keys_sublist (body : κ → α → Option β) (entries : List (κ × α)) :
    ((kept body entries).map Prod.fst).Sublist (entries.map Prod.fst) := by
  induction entries with
  | nil => simp [kept]
  | cons head rest ih =>
    simp only [kept, List.filterMap_cons, List.map_cons] at ih ⊢
    cases body head.1 head.2 with
    | none => exact ih.cons _
    | some w => exact ih.cons_cons _

theorem find_kept (body : κ → α → Option β) (entries : List (κ × α))
    (nodup : (entries.map Prod.fst).Nodup) (k : κ) :
    find k (kept body entries) = (find k entries).bind (body k) := by
  apply Option.ext
  intro w
  rw [find_eq_some_iff_mem _ (nodup.sublist (kept_keys_sublist body entries)),
    Option.bind_eq_some_iff]
  simp only [kept, List.mem_filterMap, Option.map_eq_some_iff, Prod.mk.injEq]
  constructor
  · rintro ⟨⟨k', v⟩, member, w', hw, rfl, rfl⟩
    exact ⟨v, (find_eq_some_iff_mem _ nodup _ _).mpr member, hw⟩
  · rintro ⟨v, found, hw⟩
    exact ⟨(k, v), (find_eq_some_iff_mem _ nodup _ _).mp found, w, hw, rfl, rfl⟩

/-- A collecting loop decides every key by its own entry. -/
theorem get?_collect (body : κ → α → Option β) (d : Dict κ α) (out : Dict κ β) (k : κ) :
    (collect body d out).get? k = ((d.get? k).bind (body k)).or (out.get? k) := by
  rw [collect, get?_setAll _ (d.items_nodup.sublist (kept_keys_sublist body d.items)),
    find_kept body _ d.items_nodup, find_items]

/-! ## Equality of dictionaries as records -/

def keyList (d : Dict κ α) : List κ := d.entries.map Prod.fst

theorem set_of_get? {d : Dict κ α} {k : κ} {v : α} (h : d.get? k = some v) : d.set k v = d := by
  obtain ⟨entries⟩ := d
  simp only [set, get?, mk.injEq] at h ⊢
  induction entries with
  | nil => cases h
  | cons head rest ih =>
    obtain ⟨k', v'⟩ := head
    by_cases hk : k' = k
    · subst hk
      simp only [find, if_true, Option.some.injEq] at h
      simp [setEntries, h]
    · rw [find, if_neg hk] at h
      rw [setEntries, if_neg hk, ih h]

theorem setAll_of_present {entries : List (κ × α)} {d : Dict κ α}
    (h : ∀ e ∈ entries, d.get? e.1 = some e.2) : d.setAll entries = d := by
  induction entries with
  | nil => rfl
  | cons head rest ih =>
    rw [setAll, List.foldl_cons, set_of_get? (h head List.mem_cons_self)]
    exact ih fun e member => h e (List.mem_cons_of_mem head member)

theorem update_self (d : Dict κ α) : d.update d = d :=
  setAll_of_present fun e member => (d.mem_items e.1 e.2).mp member

theorem map_fst_setEntries (entries : List (κ × α)) (k : κ) (v : α) :
    (setEntries k v entries).map Prod.fst
      = if k ∈ entries.map Prod.fst then entries.map Prod.fst else entries.map Prod.fst ++ [k] := by
  induction entries with
  | nil => simp [setEntries]
  | cons head rest ih =>
    obtain ⟨k', v'⟩ := head
    by_cases hk : k' = k
    · simp [setEntries, hk]
    · rw [setEntries, if_neg hk, List.map_cons, ih, List.map_cons]
      by_cases member : k ∈ rest.map Prod.fst
      · rw [if_pos member, if_pos (List.mem_cons_of_mem _ member)]
      · have absent : k ∉ (k', v').1 :: rest.map Prod.fst := by
          rw [List.mem_cons, not_or]
          exact ⟨Ne.symm hk, member⟩
        rw [if_neg member, if_neg absent, List.cons_append]

theorem keyList_set (d : Dict κ α) (k : κ) (v : α) :
    (d.set k v).keyList = if k ∈ d.keyList then d.keyList else d.keyList ++ [k] :=
  map_fst_setEntries d.entries k v

theorem keyList_setAll {entries : List (κ × α)} (nodup : (entries.map Prod.fst).Nodup)
    (d : Dict κ α) :
    (d.setAll entries).keyList
      = d.keyList ++ (entries.map Prod.fst).filter fun k => k ∉ d.keyList := by
  induction entries generalizing d with
  | nil => simp [setAll]
  | cons head rest ih =>
    obtain ⟨fresh, tail⟩ := List.nodup_cons.mp nodup
    have step := ih tail (d.set head.1 head.2)
    rw [setAll, List.foldl_cons]
    rw [setAll] at step
    rw [step, keyList_set, List.map_cons]
    by_cases member : head.1 ∈ d.keyList
    · rw [if_pos member, List.filter_cons_of_neg (by simpa using member)]
    · rw [if_neg member, List.filter_cons_of_pos (by simpa using member), List.append_assoc,
        List.singleton_append]
      congr 2
      refine List.filter_congr fun k inTail => ?_
      have other : k ≠ head.1 := by
        rintro rfl
        exact fresh inTail
      simp [other]

theorem ext_of_keyList {d e : Dict κ α} (keys : d.keyList = e.keyList) (nodup : d.keyList.Nodup)
    (same : d.Same e) : d = e := by
  obtain ⟨xs⟩ := d
  obtain ⟨ys⟩ := e
  simp only [keyList] at keys nodup
  have nodup' : (ys.map Prod.fst).Nodup := keys ▸ nodup
  refine congrArg Dict.mk (List.ext_getElem ?_ ?_)
  · simpa using congrArg List.length keys
  · intro i hx hy
    have keyAt : xs[i].1 = ys[i].1 := by
      have := List.getElem_of_eq keys (by simpa using hx)
      simpa using this
    have left : find xs[i].1 xs = some xs[i].2 :=
      (find_eq_some_iff_mem xs nodup _ _).mpr (List.getElem_mem hx)
    have right : find ys[i].1 ys = some ys[i].2 :=
      (find_eq_some_iff_mem ys nodup' _ _).mpr (List.getElem_mem hy)
    have valueAt : some xs[i].2 = some ys[i].2 := by
      rw [← left, ← right, ← keyAt]
      exact same xs[i].1
    exact Prod.ext keyAt (Option.some.inj valueAt)

theorem items_eq_entries {d : Dict κ α} (nodup : d.keyList.Nodup) : d.items = d.entries := by
  obtain ⟨entries⟩ := d
  simp only [keyList, items] at nodup ⊢
  induction entries with
  | nil => rfl
  | cons head rest ih =>
    obtain ⟨fresh, tail⟩ := List.nodup_cons.mp nodup
    rw [dedupe, ih tail, List.filter_eq_self.mpr]
    intro e member
    have other : e.1 ≠ head.1 := by
      rintro clash
      exact fresh (clash ▸ List.mem_map_of_mem member)
    simpa using other

theorem nodup_setAll {entries : List (κ × α)} (nodup : (entries.map Prod.fst).Nodup)
    {d : Dict κ α} (unique : d.keyList.Nodup) : (d.setAll entries).keyList.Nodup := by
  rw [keyList_setAll nodup]
  refine List.Nodup.append unique (nodup.filter _) ?_
  intro k inD inNew
  simpa [inD] using (List.mem_filter.mp inNew).2

/-- Overlaying a default twice with the same mapping changes nothing. -/
theorem update_update (base c : Dict κ α) (unique : base.keyList.Nodup) :
    base.update (base.update c) = base.update c := by
  have unique' : (base.update c).keyList.Nodup := nodup_setAll c.items_nodup unique
  have keys : ∀ other : Dict κ α, (base.update other).keyList
      = base.keyList ++ other.keys.filter fun k => k ∉ base.keyList :=
    fun other => keyList_setAll other.items_nodup base
  refine ext_of_keyList ?_ (nodup_setAll (items_nodup _) unique) ?_
  · rw [keys, keys, show (base.update c).keys = (base.update c).keyList from by
      rw [Dict.keys, items_eq_entries unique', keyList], keys, List.filter_append, List.filter_filter]
    simp
  · intro k
    rw [get?_update, get?_update]
    cases c.get? k <;> cases base.get? k <;> rfl

theorem setAll_empty {entries : List (κ × α)} (nodup : (entries.map Prod.fst).Nodup) :
    (empty : Dict κ α).setAll entries = ⟨entries⟩ := by
  refine ext_of_keyList ?_ (nodup_setAll nodup List.nodup_nil) fun k => ?_
  · rw [keyList_setAll nodup]
    simp [keyList, empty]
  · rw [get?_setAll _ nodup, get?_empty, Option.or_none]
    rfl

/-- A loop that keeps every entry rebuilds the dictionary. -/
theorem collect_all {body : κ → α → Option α} {d : Dict κ α} (unique : d.keyList.Nodup)
    (keeps : ∀ k v, d.get? k = some v → body k v = some v) : collect body d empty = d := by
  have all : kept body d.items = d.entries := by
    rw [items_eq_entries unique, kept]
    have pointwise : ∀ e ∈ d.entries, ((body e.1 e.2).map fun w => (e.1, w)) = some e := by
      intro e member
      rw [keeps e.1 e.2 ((find_eq_some_iff_mem _ unique _ _).mpr member)]
      rfl
    rw [List.filterMap_congr pointwise, List.filterMap_some]
  rw [collect, all, setAll_empty unique]

end Dict
end BinancePlatform.Library
