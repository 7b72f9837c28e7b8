import EmbeddedPython.Program.Expr
import EmbeddedPython.Value.Text

/-!
# Operations on values

What operators, comparisons and subscripts make of values.  None of them changes
a value or looks at the interpreter.

`Operation.binary` is told whether it stands for a change in place: for values
that are changed this way it complains in other words.
-/

namespace EmbeddedPython.Operation

/-! ## Complaints -/

/-- The name of the type of a value, as complaints about operations have it. -/
def operandName (v : Value) : String :=
  match v with
  | .dateTime _ => "datetime.datetime"
  | v =>
    if ["date", "datetime", "time", "timedelta"].contains v.typeName then
      "datetime." ++ v.typeName
    else v.typeName

/-- A complaint about a type. -/
def typeError {α : Type} (text : String) : Except Raised α :=
  .error ⟨"TypeError", text⟩

/-- A complaint about two operands. -/
def unsupported {α : Type} (sign : String) (a b : Value) : Except Raised α :=
  typeError ("unsupported operand type(s) for " ++ sign ++ ": '" ++ operandName a ++ "' and '"
    ++ operandName b ++ "'")

/-- An operation on numbers of two sizes that has no result. -/
def zeroDivision {α : Type} (text : String) : Except Raised α :=
  .error ⟨"ZeroDivisionError", text⟩

/-- A value that does not fit into memory. -/
def outOfMemory {α : Type} : Except Raised α :=
  .error ⟨"MemoryError", ""⟩

/-- A value that is no row of items. -/
def notIterable {α : Type} (v : Value) : Except Raised α :=
  typeError ("'" ++ operandName v ++ "' object is not iterable")

/-! ## Truth -/

/-- The truth of a value. -/
def truth (v : Value) : Bool :=
  match v.core with
  | .none => false
  | .bool b => b
  | .int n => n ≠ 0
  | .float x => !x.isZero
  | .str s => !s.isEmpty
  | .bytes o | .byteArray o => !o.isEmpty
  | .list items | .tuple items => !items.isEmpty
  | _ => true

/-! ## Numbers -/

/-- The integer that a value is. -/
def integer? (v : Value) : Option Int :=
  match v.core with
  | .int n => some n
  | .bool b => some (if b then 1 else 0)
  | _ => none

/-- The double that a number is. -/
def double? (v : Value) : Option Double :=
  match v.core with
  | .float x => some x
  | _ => (integer? v).bind Double.ofInt?

/-- A value that counts with imaginary numbers. -/
def isComplex (v : Value) : Bool :=
  match v.core with
  | .object "complex" => true
  | _ => false

/-- A number of any kind. -/
def isNumber (v : Value) : Bool :=
  isComplex v || (double? v).isSome || (integer? v).isSome

/-- The largest number of bits that a power or a shift may have. -/
def widest : Nat := 100000

/-- An operation on integers. -/
def integers (op : BinaryOperator) (a b : Int) : Except Raised Value :=
  match op with
  | .add => .ok (.int (a + b))
  | .subtract => .ok (.int (a - b))
  | .multiply => .ok (.int (a * b))
  | .quotient =>
    if b = 0 then zeroDivision "integer division or modulo by zero" else .ok (.int (a.fdiv b))
  | .remainder =>
    if b = 0 then zeroDivision "integer modulo by zero" else .ok (.int (a.fmod b))
  | .power =>
    if b < 0 then .ok (.object "float")
    else if widest < (a.natAbs.log2 + 1) * b.toNat && 1 < a.natAbs then outOfMemory
    else .ok (.int (Int.pow a b.toNat))
  | .shiftLeft =>
    if b < 0 then .error ⟨"ValueError", "negative shift count"⟩
    else if widest < b.toNat then outOfMemory
    else .ok (.int (a * Nat.pow 2 b.toNat))
  | .shiftRight =>
    if b < 0 then .error ⟨"ValueError", "negative shift count"⟩
    else if widest < b.toNat then .ok (.int (if a < 0 then -1 else 0))
    else .ok (.int (a.fdiv (Nat.pow 2 b.toNat)))
  | .bitAnd => .ok (.int (bits Nat.land a b))
  | .bitOr => .ok (.int (bits Nat.lor a b))
  | .bitXor => .ok (.int (bits Nat.xor a b))
  | .divide | .matrix => .ok (.object "float")
where
  /-- An operation on the bits of two integers, which reach so far that only
  copies of the sign are beyond. -/
  bits (f : Nat → Nat → Nat) (a b : Int) : Int :=
    let size := Nat.pow 2 (max a.natAbs.log2 b.natAbs.log2 + 2)
    let result := f (a % size).toNat (b % size).toNat % size
    if size / 2 ≤ result then (result : Int) - size else result

/-- The double of a hardware number. -/
def ofHardware (x : Float) : Value :=
  .float ⟨x.toBits⟩

/-- An operation on doubles. -/
def doubles (op : BinaryOperator) (a b : Double) : Except Raised Value :=
  let x := Float.ofBits a.bits
  let y := Float.ofBits b.bits
  match op with
  | .add => .ok (ofHardware (x + y))
  | .subtract => .ok (ofHardware (x - y))
  | .multiply => .ok (ofHardware (x * y))
  | .divide => if b.isZero then zeroDivision "float division by zero" else .ok (ofHardware (x / y))
  | .quotient =>
    if b.isZero then zeroDivision "float floor division by zero"
    else .ok (ofHardware (x / y).floor)
  | .remainder =>
    if b.isZero then zeroDivision "float modulo"
    else .ok (ofHardware (x - y * (x / y).floor))
  | .power => .ok (ofHardware (Float.pow x y))
  | _ => .ok (.object "float")

/-- An operation that doubles have as well as integers. -/
def isArithmetic : BinaryOperator → Bool
  | .add | .subtract | .multiply | .divide | .quotient | .remainder | .power => true
  | _ => false

/-! ## Rows of items -/

/-- The most items that a row has when it is repeated. -/
def longest : Nat := 1000000

/-- A row repeated so many times. -/
def repeated {α : Type} (items : List α) (n : Int) : Except Raised (List α) :=
  if longest < items.length * n.toNat then outOfMemory
  else .ok (List.replicate n.toNat items).flatten

/-- The product of a row and an integer. -/
def repeatedValue? (v : Value) (n : Int) : Option (Except Raised Value) :=
  match v.core with
  | .str s => some ((repeated s.toList n).map fun cs => .str (String.ofList cs))
  | .bytes o => some ((repeated o n).map .bytes)
  | .byteArray o => some ((repeated o n).map .byteArray)
  | .list items => some ((repeated items n).map .list)
  | .tuple items => some ((repeated items n).map .tuple)
  | _ => none

/-- The octets of a value. -/
def octets? (v : Value) : Option Octets :=
  match v.core with
  | .bytes o | .byteArray o => some o
  | _ => none

/-- The sum of a row and another value, or why there is none. -/
def joined (inPlace : Bool) (a b : Value) : Option (Except Raised Value) :=
  let only (kind : String) : Except Raised Value :=
    typeError ("can only concatenate " ++ kind ++ " (not \x22" ++ operandName b ++ "\x22) to " ++ kind)
  match a.core, b.core with
  | .str s, .str t => some (.ok (.str (s ++ t)))
  | .str _, .brokenStr | .brokenStr, .str _ | .brokenStr, .brokenStr => some (.ok .brokenStr)
  | .str _, _ | .brokenStr, _ => some (only "str")
  | .list xs, .list ys => some (.ok (.list (xs ++ ys)))
  | .list xs, .tuple ys => some (if inPlace then .ok (.list (xs ++ ys)) else only "list")
  | .list xs, .str s =>
    some (if inPlace then .ok (.list (xs ++ s.toList.map fun c => .str (String.ofList [c])))
      else only "list")
  | .list _, _ => some (if inPlace then notIterable b else only "list")
  | .tuple xs, .tuple ys => some (.ok (.tuple (xs ++ ys)))
  | .tuple _, _ => some (only "tuple")
  | .bytes o, _ | .byteArray o, _ =>
    let isFixed := match a.core with
      | .bytes _ => true
      | _ => false
    match octets? b with
    | some p => some (.ok (if isFixed then .bytes (o ++ p) else .byteArray (o ++ p)))
    | none => some (typeError ("can't concat " ++ operandName b ++ " to " ++ operandName a))
  | _, _ => none

/-! ## Operators -/

/-- The result of an operator between two values. -/
def binary (inPlace : Bool) (op : BinaryOperator) (a b : Value) : Except Raised Value :=
  let sign := if op = .power && !inPlace then "** or pow()"
    else op.sign ++ (if inPlace then "=" else "")
  match integer? a, integer? b with
  | some m, some n =>
    if op = .divide then
      if n = 0 then zeroDivision "division by zero"
      else
        match Double.ofInt? m, Double.ofInt? n with
        | some x, some y => doubles .divide x y
        | _, _ => .error ⟨"OverflowError", "integer division result too large for a float"⟩
    else if op = .matrix then unsupported sign a b
    else integers op m n
  | x, y =>
    if isNumber a && isNumber b then
      if isComplex a || isComplex b then
        if isArithmetic op && op ≠ .quotient && op ≠ .remainder then .ok (.object "complex")
        else unsupported sign a b
      else if isArithmetic op then
        match double? a, double? b with
        | some c, some d => doubles op c d
        | _, _ => .error ⟨"OverflowError", "int too large to convert to float"⟩
      else unsupported sign a b
    else
      match op, x, y with
      | .add, _, _ => (joined inPlace a b).getD (unsupported sign a b)
      | .multiply, _, some n => (repeatedValue? a n).getD (unsupported sign a b)
      | .multiply, some m, none => (repeatedValue? b m).getD (unsupported sign a b)
      | .multiply, none, none =>
        if (repeatedValue? a 0).isSome then
          typeError ("can't multiply sequence by non-int of type '" ++ operandName b ++ "'")
        else if (repeatedValue? b 0).isSome then
          typeError ("can't multiply sequence by non-int of type '" ++ operandName a ++ "'")
        else unsupported sign a b
      | _, _, _ => unsupported sign a b

/-- The result of an operator in front of a value. -/
def unary (op : UnaryOperator) (v : Value) : Except Raised Value :=
  let wrong (sign : String) : Except Raised Value :=
    typeError ("bad operand type for unary " ++ sign ++ ": '" ++ operandName v ++ "'")
  match op with
  | .not => .ok (.bool !(truth v))
  | .plus =>
    match integer? v, v.core with
    | some n, _ => .ok (.int n)
    | none, .float x => .ok (.float x)
    | none, _ => if isComplex v then .ok (.object "complex") else wrong "+"
  | .negate =>
    match integer? v, v.core with
    | some n, _ => .ok (.int (-n))
    | none, .float x => .ok (.float ⟨x.bits ^^^ (Nat.pow 2 63).toUInt64⟩)
    | none, _ => if isComplex v then .ok (.object "complex") else wrong "-"
  | .invert =>
    match integer? v with
    | some n => .ok (.int (-n - 1))
    | none => wrong "~"

/-! ## Comparisons -/

mutual

/-- Two values are equal.  Values that are known by their types alone are equal
to none. -/
def equal : Value → Value → Bool
  | .derived _ a, b => equal a b
  | .none, b => match b with
    | .none => true
    | _ => false
  | .bool a, b => sameNumber (.bool a) b
  | .int a, b => sameNumber (.int a) b
  | .float a, b => sameNumber (.float a) b
  | .str s, b => match b.core with
    | .str t => s = t
    | _ => false
  | .bytes o, b | .byteArray o, b => octets? b = some o
  | .list items, b => match b.core with
    | .list others => equalItems items others
    | _ => false
  | .tuple items, b => match b.core with
    | .tuple others => equalItems items others
    | _ => false
  | .type a, b => match b with
    | .type c => a = c
    | _ => false
  | .builtin a, b => match b with
    | .builtin c => a = c
    | _ => false
  | .module a, b => match b with
    | .module c => a = c
    | _ => false
  | _, _ => false

/-- Two rows have equal items. -/
def equalItems : List Value → List Value → Bool
  | [], [] => true
  | a :: as, b :: bs => equal a b && equalItems as bs
  | _, _ => false

/-- Two numbers are equal. -/
def sameNumber (a b : Value) : Bool :=
  match integer? a, integer? b with
  | some m, some n => m = n
  | _, _ =>
    match double? a, double? b with
    | some x, some y => Float.ofBits x.bits == Float.ofBits y.bits
    | _, _ => false

end

/-- The order of two rows by an order of their items. -/
def rowOrder (order : Value → Value → Option Ordering) :
    List Value → List Value → Option Ordering
  | [], [] => some .eq
  | [], _ :: _ => some .lt
  | _ :: _, [] => some .gt
  | a :: as, b :: bs => if equal a b then rowOrder order as bs else order a b

/-- The order of two values that have one. -/
def order? (a b : Value) : Option Ordering :=
  match integer? a, integer? b with
  | some m, some n => some (compare m n)
  | _, _ =>
    match double? a, double? b with
    | some x, some y =>
      let x := Float.ofBits x.bits
      let y := Float.ofBits y.bits
      some (if x < y then .lt else if x == y then .eq else .gt)
    | _, _ =>
      match a.core, b.core with
      | .str s, .str t => some (if s = t then .eq else if s < t then .lt else .gt)
      | _, _ =>
        match octets? a, octets? b with
        | some o, some p => some (if o = p then .eq else if o < p then .lt else .gt)
        | _, _ => none

/-- The order of two values, or of their items one level down. -/
def itemOrder? (a b : Value) : Option Ordering :=
  match a.core, b.core with
  | .list xs, .list ys | .tuple xs, .tuple ys => rowOrder order? xs ys
  | _, _ => order? a b

/-- The values are one and the same, as far as that can be told. -/
def isSame (a b : Value) : Bool :=
  a.typeName = b.typeName && (equal a b || match a, b with
    | .object m, .object n => m = n && ["ellipsis", "NotImplementedType"].contains m
    | _, _ => false)

/-- The value holds an item. -/
def holds (v item : Value) : Except Raised Bool :=
  match v.core with
  | .list items | .tuple items => .ok (items.any (equal item))
  | .str s =>
    match item.core with
    | .str t => .ok (hasPart s.toList t.toList)
    | _ =>
      typeError ("'in <string>' requires string as left operand, not " ++ operandName item)
  | .bytes o | .byteArray o =>
    match octets? item, integer? item with
    | some p, _ => .ok (hasPart o p)
    | none, some n =>
      if 0 ≤ n && n < 256 then .ok (o.contains n.toNat.toUInt8)
      else .error ⟨"ValueError", "byte must be in range(0, 256)"⟩
    | none, none =>
      typeError ("a bytes-like object is required, not '" ++ operandName item ++ "'")
  | .object name =>
    if ["dict", "set", "frozenset", "range", "generator"].contains name then .ok false
    else typeError ("argument of type '" ++ operandName v ++ "' is not iterable")
  | _ => typeError ("argument of type '" ++ operandName v ++ "' is not iterable")
where
  /-- The items have others in a row among them. -/
  hasPart {α : Type} [BEq α] : List α → List α → Bool
    | [], part => part.isEmpty
    | c :: rest, part => part.isPrefixOf (c :: rest) || hasPart rest part

/-- The result of a comparison. -/
def compared (c : Comparison) (a b : Value) : Except Raised Bool :=
  let ordered (accept : Ordering → Bool) : Except Raised Bool :=
    match itemOrder? a b with
    | some o => .ok (accept o)
    | none =>
      typeError ("'" ++ c.sign ++ "' not supported between instances of '" ++ operandName a
        ++ "' and '" ++ operandName b ++ "'")
  match c with
  | .equal => .ok (equal a b)
  | .unequal => .ok !(equal a b)
  | .less => ordered (· == .lt)
  | .atMost => ordered (· != .gt)
  | .greater => ordered (· == .gt)
  | .atLeast => ordered (· != .lt)
  | .same => .ok (isSame a b)
  | .notSame => .ok !(isSame a b)
  | .member => holds b a
  | .notMember => (holds b a).map (!·)

/-! ## Items -/

/-- The items of a value, one by one. -/
def items (v : Value) : Except Raised (List Value) :=
  match v.core with
  | .list items | .tuple items => .ok items
  | .str s => .ok (s.toList.map fun c => .str (String.ofList [c]))
  | .bytes o | .byteArray o => .ok (o.map fun b => .int b.toNat)
  | .object name =>
    if ["dict", "set", "frozenset", "range", "generator", "memoryview", "map", "filter", "zip",
      "enumerate"].contains name then .ok []
    else notIterable v
  | _ => notIterable v

/-- The item at an index, counted from the end if it is negative. -/
def item? {α : Type} (items : List α) (index : Int) : Option α :=
  if index < 0 then
    if index + items.length < 0 then none else items[(index + items.length).toNat]?
  else items[index.toNat]?

/-- The item of a value under an index. -/
def subscript (v index : Value) : Except Raised Value :=
  let pick {α : Type} (kind what : String) (items : List α) (make : α → Value) :
      Except Raised Value :=
    match integer? index with
    | none =>
      typeError (kind ++ " indices must be integers"
        ++ (if kind = "string" then ", not '" ++ operandName index ++ "'"
          else " or slices, not " ++ operandName index))
    | some n =>
      match item? items n with
      | some a => .ok (make a)
      | none => .error ⟨"IndexError", what ++ "index out of range"⟩
  match v.core with
  | .list items => pick "list" "list " items id
  | .tuple items => pick "tuple" "tuple " items id
  | .str s => pick "string" "string " s.toList fun c => .str (String.ofList [c])
  | .bytes o => pick "byte" "" o fun b => .int b.toNat
  | .byteArray o => pick "bytearray" "bytearray " o fun b => .int b.toNat
  | .object "dict" => .error ⟨"KeyError", index.quoted⟩
  | _ => typeError ("'" ++ operandName v ++ "' object is not subscriptable")

end EmbeddedPython.Operation
