import Mathlib.Algebra.Order.Field.Rat
import Mathlib.Data.List.Basic

/-!
# Python values as the adapters see them

Every function of `cheval.py`, `cheval_server.py` and `config_loader.py` that this project
models reads its input through `dict.get`, `x[0]`, `for … in`, `isinstance` and Python's
truthiness, and each of those raises on some shapes of value. This file fixes one value type
for what `json.loads` (and `yaml.safe_load`, for a config) produces, and one reading of each
operation, so that the modules above can state exactly when a path raises.

Numbers are exact: an `int` is an `Int`, a `float` a rational. Dict keys are strings, which
is all JSON produces and all the config claims range over; a dict is its items in order, and
`get` returns the first binding, which for a dict built by `json.loads` is the only one.
-/

set_option autoImplicit false

namespace Cheval
namespace Python

/-- The exception classes the modelled paths can raise. -/
inductive PyErr where
  | typeError
  | keyError
  | attributeError
  | indexError
  | valueError
  | unicodeDecodeError
  | jsonDecodeError
  | overflowError
  | recursionError
  | fileNotFoundError
  /-- Another `OSError` of `open` or `read`, such as `PermissionError`. -/
  | osError
  /-- `httpx.InvalidURL`, from building a client on a base URL `httpx` does not parse. -/
  | invalidURL
  deriving DecidableEq, Repr

/-- A value of `json.loads` or `yaml.safe_load`, as Python sees it. -/
inductive PyVal where
  | none
  | bool (b : Bool)
  | int (n : Int)
  | float (q : ℚ)
  | str (s : String)
  | list (xs : List PyVal)
  | dict (items : List (String × PyVal))
  deriving Inhabited, Repr

namespace PyVal

/-- `bool(v)`: `None`, `False`, zero, and empty strings and containers are false. -/
def truthy : PyVal → Bool
  | .none => false
  | .bool b => b
  | .int n => n != 0
  | .float q => q != 0
  | .str s => !s.isEmpty
  | .list xs => !xs.isEmpty
  | .dict items => !items.isEmpty

/-- `isinstance(v, dict)`. -/
def isDict : PyVal → Bool
  | .dict _ => true
  | _ => false

/-- `isinstance(v, str)`. -/
def isStr : PyVal → Bool
  | .str _ => true
  | _ => false

/-- `v.get(key, default)`: only a dict has `get`; on anything else the attribute lookup
raises `AttributeError`. -/
def getD (v : PyVal) (key : String) (default : PyVal) : Except PyErr PyVal :=
  match v with
  | .dict items => .ok ((items.lookup key).getD default)
  | _ => .error .attributeError

/-- `v.get(key)`, whose default is `None`. -/
def get (v : PyVal) (key : String) : Except PyErr PyVal := v.getD key .none

/-- `v[key]` for a string key: a dict's binding, `KeyError` where it has none; every other
JSON value raises `TypeError` on a string index. -/
def getItem (v : PyVal) (key : String) : Except PyErr PyVal :=
  match v with
  | .dict items =>
    match items.lookup key with
    | .some x => .ok x
    | .none => .error .keyError
  | _ => .error .typeError

/-- `v.items()`: only a dict has `items`. -/
def items : PyVal → Except PyErr (List (String × PyVal))
  | .dict kvs => .ok kvs
  | _ => .error .attributeError

/-- `v is None`. -/
def isNone : PyVal → Bool
  | .none => true
  | _ => false

/-- `v == s` for a string `s`: only a `str` with the same characters is equal to it. -/
def eqStr (v : PyVal) (s : String) : Bool :=
  match v with
  | .str t => t == s
  | _ => false

/-- `hash(v)` succeeds: on every JSON value but a list or a dict. -/
def hashable : PyVal → Bool
  | .list _ | .dict _ => false
  | _ => true

/-- The number a value stands for in `==`: `bool` is a subclass of `int`. -/
def numeric : PyVal → Option ℚ
  | .bool b => some (if b then 1 else 0)
  | .int n => some n
  | .float q => some q
  | _ => Option.none

/-- `a == b` between two hashable values, as a dict compares its keys: `None` with `None`,
strings by their characters, and numbers by value, so that `True`, `1` and `1.0` are one key. -/
def eqKey (a b : PyVal) : Bool :=
  match a, b with
  | .none, .none => true
  | .str s, .str t => s == t
  | _, _ =>
    match a.numeric, b.numeric with
    | .some x, .some y => x == y
    | _, _ => false

/-- The least `int` that `float()` rounds past the largest double, written with shifts so that
it evaluates (`floatOverflowBound_eq`). -/
def floatOverflowBound : Nat := (1 <<< 1024) - (1 <<< 970)

theorem floatOverflowBound_eq : floatOverflowBound = 2 ^ 1024 - 2 ^ 970 :=
  congrArg₂ (· - ·) (Nat.one_shiftLeft 1024) (Nat.one_shiftLeft 970)

/-- `x` converted to `float`, as arithmetic with a float converts it: `OverflowError` for an
`int` that rounds past the largest double, `TypeError` for what is not a number. -/
def toFloat : PyVal → Except PyErr ℚ
  | .int n => if n.natAbs < floatOverflowBound then .ok n else .error .overflowError
  | .bool b => .ok (if b then 1 else 0)
  | .float q => .ok q
  | _ => .error .typeError

/-- An `int` within the 53 bits of a double's mantissa converts exactly. -/
theorem toFloat_int_small {n : Int} (h : n.natAbs ≤ 2 ^ 53) : (PyVal.int n).toFloat = .ok n := by
  have hbound : 2 ^ 53 < floatOverflowBound := by decide
  rw [toFloat, if_pos (lt_of_le_of_lt h hbound)]

/-- `v` as one side of an order comparison with a number (`v >= x`, `v > 0`): Python compares
`int`, `bool` and `float` by exact value, and raises `TypeError` for everything else. -/
def toNumber (v : PyVal) : Except PyErr ℚ :=
  match v.numeric with
  | .some q => .ok q
  | .none => .error .typeError

/-- `v + 1`: a `bool` adds as an `int`; `None`, strings and containers raise `TypeError`. -/
def addOne : PyVal → Except PyErr PyVal
  | .int n => .ok (.int (n + 1))
  | .bool b => .ok (.int ((if b then 1 else 0) + 1))
  | .float q => .ok (.float (q + 1))
  | _ => .error .typeError

/-- `x / d` for a float `d`. -/
def divFloat (x : PyVal) (d : ℚ) : Except PyErr ℚ := do
  let q ← x.toFloat
  return q / d

/-- `v[0]`. A JSON dict has only string keys, so `0` is never one of them. -/
def getItem0 : PyVal → Except PyErr PyVal
  | .list (x :: _) => .ok x
  | .list [] => .error .indexError
  | .str s =>
    match s.data with
    | c :: _ => .ok (.str (String.singleton c))
    | [] => .error .indexError
  | .dict _ => .error .keyError
  | _ => .error .typeError

/-- `iter(v)`, as a `for` loop sees it: a list's items, a string's characters, a dict's
keys; `None`, booleans and numbers are not iterable. -/
def iter : PyVal → Except PyErr (List PyVal)
  | .list xs => .ok xs
  | .str s => .ok (s.data.map fun c => .str (String.singleton c))
  | .dict items => .ok (items.map fun kv => .str kv.1)
  | _ => .error .typeError

/-- `a or b` for a value and its fallback. -/
def orElse (a b : PyVal) : PyVal := if a.truthy then a else b

@[simp] theorem getD_dict (items : List (String × PyVal)) (key : String) (d : PyVal) :
    (PyVal.dict items).getD key d = .ok ((items.lookup key).getD d) := rfl

@[simp] theorem getItem_dict (items : List (String × PyVal)) (key : String) :
    (PyVal.dict items).getItem key = match items.lookup key with
      | .some x => .ok x
      | .none => .error .keyError := rfl

@[simp] theorem orElse_truthy {a : PyVal} (b : PyVal) (h : a.truthy = true) : a.orElse b = a := by
  simp [orElse, h]

@[simp] theorem orElse_falsy {a : PyVal} (b : PyVal) (h : a.truthy = false) : a.orElse b = b := by
  simp [orElse, h]

/-- `get` answers exactly on dicts. -/
theorem getD_eq_error {v : PyVal} {key : String} {d : PyVal} {e : PyErr}
    (h : v.getD key d = .error e) : v.isDict = false ∧ e = .attributeError := by
  cases v <;> simp_all [getD, isDict]

end PyVal

/-- The call returns, with some value. -/
def Ok {α : Type} (r : Except PyErr α) : Prop := ∃ v, r = .ok v

theorem ok_bind {α β : Type} {a : Except PyErr α} {f : α → Except PyErr β} :
    Ok (a >>= f) ↔ ∃ x, a = .ok x ∧ Ok (f x) := by
  cases a <;> simp [Ok, bind, Except.bind]

/-- A bind that returns: the first computation returned, and the rest did on its value. -/
theorem bind_eq_ok {α β : Type} {x : Except PyErr α} {f : α → Except PyErr β} {r : β} :
    x >>= f = .ok r ↔ ∃ a, x = .ok a ∧ f a = .ok r := by
  cases x <;> simp [bind, Except.bind]

/-- `d[key] = value` on a dict's items: the binding of `key` takes the value in place, or is
added last. -/
def setItem : List (String × PyVal) → String → PyVal → List (String × PyVal)
  | [], key, value => [(key, value)]
  | (k, v) :: rest, key, value =>
    if k = key then (k, value) :: rest else (k, v) :: setItem rest key value

/-- `List.lookup` on a cons, as an `if` on the keys. -/
theorem lookup_cons_ite {β : Type} (k k' : String) (v : β) (es : List (String × β)) :
    ((k', v) :: es).lookup k = if k = k' then some v else es.lookup k := by
  by_cases h : k = k'
  · subst h; simp
  · rw [List.lookup_cons, beq_false_of_ne h, if_neg h]

/-- A computation returns one value. -/
theorem ok_unique {α : Type} {x : Except PyErr α} {a b : α} (ha : x = .ok a) (hb : x = .ok b) :
    a = b :=
  Except.ok.inj (ha.symm.trans hb)

@[simp] theorem ok_bind_pure {α β : Type} {a : Except PyErr α} {g : α → β} :
    Ok (a >>= fun x => pure (g x)) ↔ Ok a := by
  cases a <;> simp [Ok, bind, Except.bind, pure, Except.pure]

@[simp] theorem ok_ok {α : Type} (v : α) : Ok (.ok v : Except PyErr α) := ⟨v, rfl⟩

@[simp] theorem ok_pure {α : Type} (v : α) : Ok (pure v : Except PyErr α) := ⟨v, rfl⟩

@[simp] theorem not_ok_error {α : Type} (e : PyErr) : ¬ Ok (.error e : Except PyErr α) :=
  fun ⟨_, h⟩ => Except.noConfusion h

/-- `str.isspace()` on one character: the characters CPython's `Py_UNICODE_ISSPACE` accepts,
which `str.strip()` removes. -/
def isSpace (c : Char) : Bool :=
  (0x09 ≤ c.toNat && c.toNat ≤ 0x0D) || (0x1C ≤ c.toNat && c.toNat ≤ 0x20) || c.toNat = 0x85 ||
    c.toNat = 0xA0 || c.toNat = 0x1680 || (0x2000 ≤ c.toNat && c.toNat ≤ 0x200A) ||
    c.toNat = 0x2028 || c.toNat = 0x2029 || c.toNat = 0x202F || c.toNat = 0x205F ||
    c.toNat = 0x3000

/-- `s.strip()`. -/
def strip (s : String) : String :=
  ⟨((s.data.dropWhile isSpace).reverse.dropWhile isSpace).reverse⟩

/-- `s.rstrip(c)` for one character `c`. -/
def rstrip (s : String) (c : Char) : String :=
  ⟨(s.data.reverse.dropWhile (· == c)).reverse⟩

theorem forall_dropWhile_iff {p : Char → Bool} (l : List Char) :
    (∀ c ∈ l.dropWhile p, p c) ↔ ∀ c ∈ l, p c := by
  refine ⟨fun h c hc => ?_, fun h c hc => h c ((List.dropWhile_suffix p).subset hc)⟩
  rw [← List.takeWhile_append_dropWhile p l, List.mem_append] at hc
  exact hc.elim (fun hc => by simpa using List.mem_takeWhile_imp hc) (h c)

/-- A string strips to nothing exactly when every character is whitespace. -/
theorem strip_eq_empty_iff (s : String) : strip s = "" ↔ ∀ c ∈ s.data, isSpace c := by
  rw [strip, String.ext_iff]
  simp only [show "".data = [] from rfl, List.reverse_eq_nil_iff, List.dropWhile_eq_nil_iff,
    List.mem_reverse, forall_dropWhile_iff]

end Python
end Cheval
