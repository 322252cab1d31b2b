import BinancePlatform.Library.Dict
import Mathlib.Algebra.BigOperators.Group.List.Lemmas
import Mathlib.Algebra.Ring.Defs
import Mathlib.Tactic.Ring
import Mathlib.Tactic.Linarith

/-!
# Weighted totals of a dictionary

The sum of `weight k * v` over the entries that count. An assignment changes it by the
change of its own entry.
-/

set_option autoImplicit false

namespace BinancePlatform.Library.Dict

section Items
variable {κ α : Type} [DecidableEq κ]

theorem items_perm {d e : Dict κ α} (same : ∀ k, d.get? k = e.get? k) : d.items.Perm e.items := by
  refine (List.perm_ext_iff_of_nodup (List.Nodup.of_map _ d.items_nodup)
    (List.Nodup.of_map _ e.items_nodup)).mpr fun entry => ?_
  rw [show entry = (entry.1, entry.2) from rfl, mem_items, mem_items, same]

theorem setEntries_absent {entries : List (κ × α)} {k : κ} (v : α) (absent : find k entries = none) :
    setEntries k v entries = entries ++ [(k, v)] := by
  induction entries with
  | nil => rfl
  | cons e rest ih =>
    rw [find] at absent
    split at absent
    next => cases absent
    next other => rw [setEntries, if_neg other, ih absent, List.cons_append]

theorem entries_set_absent {d : Dict κ α} {k : κ} {v : α} (absent : d.get? k = none) :
    (d.set k v).entries = d.entries ++ [(k, v)] := setEntries_absent v absent

end Items

variable {κ K : Type} [DecidableEq κ] [CommRing K]

def total (weight : κ → K) (d : Dict κ K) : K := (d.items.map fun e => e.2 * weight e.1).sum

theorem total_congr (weight : κ → K) {d e : Dict κ K} (same : ∀ k, d.get? k = e.get? k) :
    total weight d = total weight e :=
  ((items_perm same).map _).sum_eq

/-- The entry of a key and the others. -/
theorem total_eq_erase (weight : κ → K) (d : Dict κ K) (k : κ) :
    total weight d = (d.get? k).getD 0 * weight k + total weight (d.erase k) := by
  cases held : d.get? k with
  | none =>
    rw [Option.getD_none, zero_mul, zero_add]
    refine total_congr weight fun q => ?_
    rw [get?_erase]
    split
    next same => rw [same, held]
    next => rfl
  | some v =>
    have fresh : ∀ w, (k, w) ∉ (d.erase k).items := by
      intro w member
      rw [mem_items, get?_erase, if_pos rfl] at member
      cases member
    have nodup : ((k, v) :: (d.erase k).items).Nodup :=
      List.nodup_cons.mpr ⟨fresh v, List.Nodup.of_map _ (d.erase k).items_nodup⟩
    have perm : d.items.Perm ((k, v) :: (d.erase k).items) := by
      refine (List.perm_ext_iff_of_nodup (List.Nodup.of_map _ d.items_nodup) nodup).mpr fun entry => ?_
      obtain ⟨q, w⟩ := entry
      rw [List.mem_cons, mem_items, mem_items, get?_erase]
      by_cases same : q = k
      · subst same
        simp [held, eq_comm]
      · simp [same]
    rw [total, total, (perm.map _).sum_eq, List.map_cons, List.sum_cons, Option.getD_some]

theorem total_set (weight : κ → K) (d : Dict κ K) (k : κ) (v : K) :
    total weight (d.set k v) = total weight d + (v - (d.get? k).getD 0) * weight k := by
  have others : total weight ((d.set k v).erase k) = total weight (d.erase k) := by
    refine total_congr weight fun q => ?_
    rw [get?_erase, get?_erase, get?_set]
    split
    · rfl
    · rfl
  rw [total_eq_erase weight (d.set k v) k, total_eq_erase weight d k, others, get?_set_self,
    Option.getD_some]
  ring

@[simp] theorem total_empty (weight : κ → K) : total weight (empty : Dict κ K) = 0 := rfl

/-- Assignments to different keys change the total by the changes of their entries. -/
theorem total_setAll (weight : κ → K) {entries : List (κ × K)} (nodup : (entries.map Prod.fst).Nodup)
    (d : Dict κ K) :
    total weight (d.setAll entries)
      = total weight d + (entries.map fun e => (e.2 - (d.get? e.1).getD 0) * weight e.1).sum := by
  induction entries generalizing d with
  | nil => simp [setAll]
  | cons e rest ih =>
    rw [List.map_cons, List.nodup_cons] at nodup
    have kept : (rest.map fun e' => (e'.2 - ((d.set e.1 e.2).get? e'.1).getD 0) * weight e'.1)
        = rest.map fun e' => (e'.2 - (d.get? e'.1).getD 0) * weight e'.1 := by
      refine List.map_congr_left fun e' member => ?_
      have other : e'.1 ≠ e.1 := fun same => nodup.1 (same ▸ List.mem_map_of_mem member)
      rw [get?_set_ne _ _ other]
    have step : d.setAll (e :: rest) = (d.set e.1 e.2).setAll rest := rfl
    rw [step, ih nodup.2, total_set, kept, List.map_cons, List.sum_cons]
    ring

theorem total_update (weight : κ → K) (d other : Dict κ K) :
    total weight (d.update other)
      = total weight d + (other.items.map fun e => (e.2 - (d.get? e.1).getD 0) * weight e.1).sum :=
  total_setAll weight other.items_nodup d

end BinancePlatform.Library.Dict
