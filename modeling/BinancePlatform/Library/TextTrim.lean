import BinancePlatform.Library.NumberText
import Mathlib.Data.List.DropRight

/-!
# Stripped text

`strip` drops the spaces at both ends; a text without them is left as it is, so stripping
twice is stripping once.
-/

set_option autoImplicit false

namespace BinancePlatform.Library.NumberText

theorem strip_eq_rdropWhile (cs : List Char) : strip cs = (cs.dropWhile isSpace).rdropWhile isSpace := rfl

theorem strip_strip (cs : List Char) : strip (strip cs) = strip cs := by
  rw [strip_eq_rdropWhile, strip_eq_rdropWhile]
  have kept : ((cs.dropWhile isSpace).rdropWhile isSpace).dropWhile isSpace
      = (cs.dropWhile isSpace).rdropWhile isSpace := by
    rw [List.dropWhile_eq_self_iff]
    intro nonempty
    have start := List.rdropWhile_prefix isSpace (l := cs.dropWhile isSpace)
    have long : 0 < (cs.dropWhile isSpace).length := nonempty.trans_le start.length_le
    rw [start.getElem nonempty]
    exact List.dropWhile_get_zero_not _ _ long
  rw [kept, List.rdropWhile_idempotent]

/-- A text without spaces at its ends. -/
theorem strip_of_ends {cs : List Char} (first : ∀ c ∈ cs.head?, isSpace c = false)
    (last : ∀ c ∈ cs.getLast?, isSpace c = false) : strip cs = cs := by
  rw [strip_eq_rdropWhile]
  have kept : cs.dropWhile isSpace = cs := by
    cases cs with
    | nil => rfl
    | cons c rest => rw [List.dropWhile_cons_of_neg (by simpa using first c rfl)]
  rw [kept, List.rdropWhile_eq_self_iff]
  intro nonempty space
  have plain := last _ (List.getLast?_eq_some_getLast nonempty)
  rw [plain] at space
  cases space

theorem ends_of_strip {cs : List Char} (trimmed : strip cs = cs) : ∀ c ∈ cs.getLast?, isSpace c = false := by
  intro c last
  have nonempty : cs ≠ [] := by
    rintro rfl
    cases last
  have kept : (cs.dropWhile isSpace).rdropWhile isSpace ≠ [] := by
    rw [← strip_eq_rdropWhile, trimmed]
    exact nonempty
  have plain := List.rdropWhile_last_not isSpace _ kept
  have same : ((cs.dropWhile isSpace).rdropWhile isSpace).getLast kept = c := by
    rw [List.getLast?_eq_some_getLast nonempty] at last
    obtain rfl := Option.some.inj last
    congr 1
  rw [same] at plain
  exact Bool.eq_false_iff.mpr plain

end BinancePlatform.Library.NumberText
