import BinancePlatform.Library.Dict
import BinancePlatform.Library.Binary64
import BinancePlatform.Library.NumberText
import BinancePlatform.Library.Outcome
import Mathlib.Data.NNRat.Defs

/-!
# Python values

The values a Firestore document or a broker response can hold, with the parts of
the interpreter the modelled functions use: truth value, `str`, `float`, and the
exception classes that are raised or caught by name. Sets, tuples and objects of
the program's own classes do not occur in these documents.
-/

set_option autoImplicit false

namespace BinancePlatform.Source
open BinancePlatform.Library

/-- A binary64 value; the magnitude of a finite one is exact. -/
inductive PyFloat where
  | nan
  | infinite (negative : Bool)
  | finite (negative : Bool) (magnitude : ℚ≥0)
  deriving DecidableEq

inductive Value where
  | none
  | bool (b : Bool)
  | int (n : ℤ)
  | float (x : PyFloat)
  | str (s : String)
  | list (items : List Value)
  | dict (entries : Dict String Value)

instance : Inhabited Value := ⟨.none⟩

abbrev Document := Dict String Value

inductive ExceptionClass where
  | keyError
  | typeError
  | valueError
  | attributeError
  | indexError
  | overflowError
  | invalidOperation
  | runtimeError
  | executionIntegrityError
  | statePersistenceError
  | orderReconciliationError
  | clientCallError
  | stateSessionBlocked
  | stateSessionUncertain
  | transportError
  | other
  deriving DecidableEq, Repr

/-- `isinstance` among the modelled classes. -/
def ExceptionClass.isA (c : ExceptionClass) : ExceptionClass → Bool
  | .runtimeError => c = .runtimeError || c = .executionIntegrityError
      || c = .statePersistenceError || c = .orderReconciliationError || c = .clientCallError
      || c = .stateSessionBlocked || c = .stateSessionUncertain
  | .executionIntegrityError => c = .executionIntegrityError || c = .statePersistenceError
      || c = .orderReconciliationError
  | target => c = target

structure PyException where
  cls : ExceptionClass
  message : String
  deriving DecidableEq, Repr

def typeError : PyException := ⟨.typeError, ""⟩
def keyError : PyException := ⟨.keyError, ""⟩
def valueError (message : String) : PyException := ⟨.valueError, message⟩
def overflowError : PyException := ⟨.overflowError, ""⟩
def invalidOperation : PyException := ⟨.invalidOperation, ""⟩
def attributeError : PyException := ⟨.attributeError, ""⟩
/-- `decimal.Overflow`, which is no `InvalidOperation`. -/
def decimalOverflow : PyException := ⟨.other, "decimal.Overflow"⟩

/-- `mapping.get(key)`. -/
def pyGet (mapping : Document) (key : String) : Value := (mapping.get? key).getD .none

/-- `value[key]` for a text key. -/
def item (value : Value) (key : String) : Except PyException Value :=
  match value with
  | .dict d => (d.get? key).elim (.error keyError) .ok
  | _ => .error typeError

/-- `isinstance(value, Mapping)`, else the given exception. -/
def asMapping (raised : PyException) : Value → Except PyException Document
  | .dict d => .ok d
  | _ => .error raised

/-- `set(xs) == set(ys)`. -/
def sameKeySet (xs ys : List String) : Bool := xs.all (· ∈ ys) && ys.all (· ∈ xs)

/-- A decimal operation whose trapped signal is an overflow. -/
def checked : Option Decimal → Except PyException Decimal
  | some d => .ok d
  | none => .error decimalOverflow

@[simp] theorem sameKeySet_iff {xs ys : List String} :
    sameKeySet xs ys = true ↔ ∀ k, k ∈ xs ↔ k ∈ ys := by
  simp only [sameKeySet, Bool.and_eq_true, List.all_eq_true, decide_eq_true_eq]
  exact ⟨fun ⟨left, right⟩ k => ⟨left k, right k⟩, fun same =>
    ⟨fun k => (same k).mp, fun k => (same k).mpr⟩⟩

theorem asMapping_ok {raised : PyException} {value : Value} {d : Document}
    (success : asMapping raised value = .ok d) : value = .dict d := by
  cases value with
  | dict e => cases success; rfl
  | _ => cases success

theorem item_ok {value found : Value} {key : String} (success : item value key = .ok found) :
    ∃ d, value = .dict d ∧ d.get? key = some found := by
  cases value with
  | dict d =>
    refine ⟨d, rfl, ?_⟩
    cases entry : d.get? key with
    | none => simp [item, entry] at success
    | some stored => simpa [item, entry] using success
  | _ => cases success

theorem checked_ok {result : Option Decimal} {d : Decimal} (success : checked result = .ok d) :
    result = some d := by
  cases result with
  | none => cases success
  | some found => exact congrArg some (Except.ok.inj success)

namespace PyFloat

def zero : PyFloat := .finite false 0

def isFinite : PyFloat → Bool
  | .finite _ _ => true
  | _ => false

def isPositive : PyFloat → Bool
  | .infinite negative => !negative
  | .finite negative magnitude => !negative && magnitude ≠ 0
  | .nan => false

def isNegative : PyFloat → Bool
  | .infinite negative => negative
  | .finite negative magnitude => negative && magnitude ≠ 0
  | .nan => false

/-- The nearest float of an exact value; too large a magnitude gives infinity. -/
def nearest (negative : Bool) (magnitude : ℚ) : PyFloat :=
  let rounded := Binary64.round magnitude
  if Binary64.overflow ≤ magnitude then .infinite negative
  else .finite negative rounded.toNNRat

/-- `round(x, digits)`: the decimal rounding of the exact value, half to even. -/
def roundDigits (digits : ℕ) : PyFloat → PyFloat
  | .finite negative magnitude =>
    nearest negative (roundHalfEven (magnitude * 10 ^ digits) / 10 ^ digits)
  | x => x

/-- `float(d)` of a decimal. -/
def ofDecimal (d : Decimal) : PyFloat := nearest d.negative |d.value|

def ofText (s : String) : Except PyException PyFloat :=
  match NumberText.readFloat s.toList with
  | some (.finite d) => .ok (nearest d.negative |d.value|)
  | some (.infinite negative) => .ok (.infinite negative)
  | some .nan => .ok .nan
  | none => .error (valueError "could not convert string to float")

def ofInt (n : ℤ) : Except PyException PyFloat :=
  match nearest (decide (n < 0)) |(n : ℚ)| with
  | .infinite _ => .error overflowError
  | x => .ok x

/-- The decimal of `digits` digits next to `x` below or above that reads back as `x`. -/
def shortestAt (x : ℚ) (digits : ℕ) : Option (ℕ × ℤ) :=
  let e := Int.log 10 x - digits + 1
  let near := roundHalfEven (x / 10 ^ e)
  let reads : ℤ → Bool := fun c => Binary64.round (c * 10 ^ e) = x
  ([near, near - 1, near + 1].find? reads).map fun c => (Int.toNat c, e)

/-- One digit rounded up to ten is one of the next place. -/
def carried (c : ℕ) (e : ℤ) : ℕ × ℤ := if c = 10 then (1, e + 1) else (c, e)

/-- The shortest decimal that reads back as `x`. -/
def shortest (x : ℚ) : ℕ × ℤ :=
  let (c, e) := ((List.range 17).filterMap fun k => shortestAt x (k + 1)).headD (0, 0)
  carried c e

/-- `float.__repr__`: the shortest decimal that reads back, with an exponent when the
point would lie more than sixteen digits to the right or four zeros to the left. -/
def repr : PyFloat → List Char
  | .nan => "nan".toList
  | .infinite negative => NumberText.signText negative ++ "inf".toList
  | .finite negative magnitude =>
    if magnitude = 0 then NumberText.signText negative ++ "0.0".toList
    else
      let (c, e) := shortest magnitude
      let ds := NumberText.decimalDigits c
      let point := e + ds.length
      let power := point - 1
      NumberText.signText negative ++
        (if -4 < point ∧ point ≤ 16 then
          NumberText.pointed ds point ++ (if (ds.length : ℤ) ≤ point then ".0".toList else [])
        else
          (if ds.length = 1 then NumberText.digitText ds else NumberText.pointed ds 1) ++
            'e' :: (if power < 0 then '-' else '+') ::
              (if power.natAbs < 10 then '0' :: NumberText.natText power.natAbs
               else NumberText.natText power.natAbs))

end PyFloat

/-- `decimal.getcontext()` of a fresh thread. -/
def defaultContext : Decimal.Context := ⟨28, -999999, 999999⟩

def maxContext : Decimal.Context := ⟨999999999999999999, -999999999999999999, 999999999999999999⟩

/-- A decimal is constructed exactly or not at all. -/
def constructible (d : Decimal) : Bool := Decimal.fix maxContext d = some d

/-- `re.fullmatch` of one character class repeated between `lo` and `hi` times. -/
def fullMatch (charClass : Char → Bool) (lo hi : ℕ) (s : String) : Bool :=
  s.toList.all charClass && lo ≤ s.toList.length && s.toList.length ≤ hi

def upperOrDigit (c : Char) : Bool := ('A' ≤ c && c ≤ 'Z') || ('0' ≤ c && c ≤ '9')

def lowerHex (c : Char) : Bool := ('0' ≤ c && c ≤ '9') || ('a' ≤ c && c ≤ 'f')

def strip (s : String) : String := String.ofList (NumberText.strip s.toList)

/-- `Decimal(text)`. -/
def decimalOfText (s : String) : Except PyException NumberText.Numeral :=
  match NumberText.readDecimal s.toList with
  | some (.finite d) => if constructible d then .ok (.finite d) else .error invalidOperation
  | some numeral => .ok numeral
  | none => .error invalidOperation

/-- The interpreter's character tables: what `repr` prints as it is, and the full
upper-case mapping of a character. -/
class CharacterTable where
  isPrintable : Char → Bool
  upper : Char → List Char

/-- The tables on ASCII text. -/
@[reducible] def asciiTable : CharacterTable where
  isPrintable c := 32 ≤ c.toNat ∧ c.toNat < 127
  upper c := [c.toUpper]

section Text
variable [CharacterTable]

def hexDigits (width n : ℕ) : List Char :=
  let ds := (Nat.digits 16 n).map Nat.digitChar
  List.replicate (width - ds.length) '0' ++ ds.reverse

def reprChar (quote c : Char) : List Char :=
  if c = quote ∨ c = '\\' then ['\\', c]
  else if c = '\t' then ['\\', 't']
  else if c = '\n' then ['\\', 'n']
  else if c = '\r' then ['\\', 'r']
  else if CharacterTable.isPrintable c then [c]
  else if c.toNat < 0x100 then '\\' :: 'x' :: hexDigits 2 c.toNat
  else if c.toNat < 0x10000 then '\\' :: 'u' :: hexDigits 4 c.toNat
  else '\\' :: 'U' :: hexDigits 8 c.toNat

def reprText (s : String) : List Char :=
  let quote := if '\'' ∈ s.toList ∧ '"' ∉ s.toList then '"' else '\''
  quote :: s.toList.flatMap (reprChar quote) ++ [quote]

/-- `s.upper()`. -/
def upperText (s : String) : String := String.ofList (s.toList.flatMap CharacterTable.upper)

def separated (texts : List (List Char)) : List Char := ", ".toList.intercalate texts

namespace Value

mutual

def repr : Value → List Char
  | .none => "None".toList
  | .bool b => if b then "True".toList else "False".toList
  | .int n => NumberText.intText n
  | .float x => x.repr
  | .str s => reprText s
  | .list items => '[' :: separated (reprItems items) ++ [']']
  | .dict entries => reprDict entries

def reprDict : Dict String Value → List Char
  | ⟨entries⟩ =>
    '{' :: separated ((Dict.dedupe (reprEntries entries)).map fun e =>
      reprText e.1 ++ ": ".toList ++ e.2) ++ ['}']

def reprItems : List Value → List (List Char)
  | [] => []
  | item :: rest => item.repr :: reprItems rest

def reprEntries : List (String × Value) → List (String × List Char)
  | [] => []
  | entry :: rest => reprEntry entry :: reprEntries rest

def reprEntry : String × Value → String × List Char
  | (key, value) => (key, value.repr)

end

/-- `str(value)`. -/
def toStr : Value → String
  | .str s => s
  | value => String.ofList value.repr

/-- `Decimal(str(value))`. -/
def toDecimal (value : Value) : Except PyException NumberText.Numeral :=
  decimalOfText value.toStr

end Value
end Text

namespace Value

/-- The truth value. -/
def truthy : Value → Bool
  | .none => false
  | .bool b => b
  | .int n => n ≠ 0
  | .float (.finite _ magnitude) => magnitude ≠ 0
  | .float _ => true
  | .str s => s ≠ ""
  | .list items => !items.isEmpty
  | .dict entries => !entries.entries.isEmpty

def isStr (value : Value) (s : String) : Bool :=
  match value with
  | .str t => t = s
  | _ => false

theorem isStr_str (s t : String) : (Value.str s).isStr t = true ↔ t = s := by
  rw [Value.isStr, decide_eq_true_eq, eq_comm]

theorem eq_str_of_isStr {value : Value} {s : String} (same : value.isStr s = true) : value = .str s := by
  cases value with
  | str t => exact congrArg Value.str ((isStr_str t s).mp same).symm
  | _ => cases same

/-- `value or fallback`. -/
def orElse (value fallback : Value) : Value := if value.truthy then value else fallback

/-- `hash` fails on lists and mappings. -/
def hashable : Value → Bool
  | .list _ | .dict _ => false
  | _ => true

/-- `float(value)`. -/
def toFloat : Value → Except PyException PyFloat
  | .bool b => .ok (.finite false (if b then 1 else 0))
  | .int n => PyFloat.ofInt n
  | .float x => .ok x
  | .str s => PyFloat.ofText s
  | .none | .list _ | .dict _ => .error typeError

end Value

/-! ## A true value has a non-empty text -/

theorem PyFloat.repr_ne_nil (x : PyFloat) : x.repr ≠ [] := by
  cases x with
  | nan => simp [PyFloat.repr]
  | infinite negative => simp [PyFloat.repr]
  | finite negative magnitude =>
    unfold PyFloat.repr
    dsimp only
    split_ifs
    · simp
    · have digits := NumberText.decimalDigits_ne_nil (PyFloat.shortest magnitude).1
      simp [NumberText.pointed_ne_nil digits]
    · simp [NumberText.pointed_ne_nil (NumberText.decimalDigits_ne_nil _)]
    all_goals simp

theorem Value.toStr_ne_empty [CharacterTable] {value : Value} (h : value.truthy = true) :
    value.toStr ≠ "" := by
  have nonempty : ∀ {cs : List Char}, cs ≠ [] → String.ofList cs ≠ "" := by
    intro cs shown empty
    exact shown (by simpa using congrArg String.toList empty)
  cases value with
  | str s => simpa [Value.truthy, Value.toStr] using h
  | float x => exact nonempty (by simpa [Value.repr] using x.repr_ne_nil)
  | none => cases h
  | bool b => exact nonempty (by cases b <;> simp [Value.repr])
  | int n =>
    refine nonempty ?_
    have digits := NumberText.decimalDigits_ne_nil n.natAbs
    unfold Value.repr NumberText.intText NumberText.natText NumberText.digitText
    split <;> simp [digits]
  | list items => exact nonempty (by simp [Value.repr])
  | dict d =>
    obtain ⟨entries⟩ := d
    exact nonempty (by simp [Value.repr, Value.reprDict])

end BinancePlatform.Source
