import LivePreview.Script.Number
import LivePreview.Script.Names

namespace LivePreview.Script

inductive Constant where
  | number (x : Float)
  | text (s : String)

namespace Constant

def numberText (x : Float) : String :=
  if x.isNaN then "NaN"
  else if x.isInf then (if x < 0 then "-Infinity" else "Infinity")
  else
    let cs := Number.plain x
    String.ofList (if x < 0 then '-' :: cs else cs)

def toText : Constant → String
  | .number x => numberText x
  | .text s => s

def toWord (x : Float) : Int :=
  if x.isNaN || x.isInf then 0
  else
    let n : Int := Number.wholePart x.abs
    Int.bmod (if x < 0 then -n else n) 4294967296

def ofInt (n : Int) : Float := if n < 0 then -Float.ofNat n.natAbs else Float.ofNat n.natAbs

def bits (n : Int) : Nat := (n % 4294967296).toNat

def ofBits (n : Nat) : Float := ofInt (Int.bmod n 4294967296)

def isBelowZero (x : Float) : Bool := x < 0 || (x == 0 && 1.0 / x < 0)

def remainder (a b : Float) : Float :=
  if a.isNaN || b.isNaN || a.isInf || b == 0 then 0.0 / 0.0
  else if b.isInf then a
  else
    let q := a / b
    let t := if q < 0 then q.ceil else q.floor
    let r := a - t * b
    if r == 0 && isBelowZero a then -0.0 else r

def binaryNumber (op : BinaryOp) (a b : Float) : Option Float :=
  let shift := bits (toWord b) % 32
  match op with
  | .add => some (a + b)
  | .sub => some (a - b)
  | .mul => some (a * b)
  | .div => some (a / b)
  | .rem => some (remainder a b)
  | .pow => some (Float.pow a b)
  | .shl => some (ofBits (bits (toWord a) * Nat.pow 2 shift))
  | .shr => some (ofInt (toWord a / Nat.pow 2 shift))
  | .ushr => some (Float.ofNat (bits (toWord a) / Nat.pow 2 shift))
  | .bitOr => some (ofBits (bits (toWord a) ||| bits (toWord b)))
  | .bitAnd => some (ofBits (bits (toWord a) &&& bits (toWord b)))
  | .bitXor => some (ofBits (bits (toWord a) ^^^ bits (toWord b)))
  | _ => none

def binary (op : BinaryOp) : Constant → Constant → Option Constant
  | .number a, .number b => (binaryNumber op a b).map .number
  | a, b => if op == .add then some (.text (a.toText ++ b.toText)) else none

def unary (op : UnaryOp) : Constant → Option Constant
  | .number x =>
      match op with
      | .plus => some (.number x)
      | .minus => some (.number (-x))
      | .bitNot => some (.number (ofInt (-(toWord x) - 1)))
      | _ => none
  | .text s =>
      match op with
      | .minus => some (.number (0.0 / 0.0))
      | .bitNot => some (.number (-1.0))
      | _ => some (.text s)

end Constant

abbrev EnumTable := List (String × List (String × Option Constant))

namespace EnumTable

def members (table : EnumTable) (id : String) : List (String × Option Constant) :=
  (table.lookup id).getD []

def value (own : List (String × Option Constant)) (id : String) : Option Constant :=
  match own.lookup id with
  | some v => v
  | none =>
      if id == "Infinity" then some (.number (1.0 / 0.0))
      else if id == "NaN" then some (.number (0.0 / 0.0))
      else none

def constant (table : EnumTable) (own : List (String × Option Constant)) : Tree → Option Constant
  | .node (.name id) _ _ => value own id
  | .node (.member key _) _ [.node (.name id) _ _] => ((table.members id).lookup key).join
  | .node (.index _) _ [.node (.name id) _ _, .node (.text key) _ _] =>
      ((table.members id).lookup key).join
  | .node (.number x _) _ _ => some (.number x)
  | .node (.text s) _ _ => some (.text s)
  | .node (.template pieces) _ _ =>
      some (.text (String.ofList (holdText (String.join pieces).toList)))
  | .node .paren _ [e] => constant table own e
  | .node (.unary op) _ [e] => (constant table own e).bind (Constant.unary op)
  | .node (.binary op) _ [l, r] =>
      match constant table own l, constant table own r with
      | some a, some b => Constant.binary op a b
      | _, _ => none
  | _ => none

end EnumTable

namespace Enum

def numberTree (x : Float) : Tree :=
  let size := if x.isInf then Tree.name "Infinity" else Tree.leaf (.number x.abs "")
  if x.isNaN then Tree.name "NaN"
  else if Constant.isBelowZero x then .node (.unary .minus) 0 [size]
  else size

mutual

def qualify (id : String) (known : List String) : Tree → Tree
  | .node (.name x) s ps =>
      if known.contains x then .node (.member x false) 0 [Tree.name id] else .node (.name x) s ps
  | .node l s ps =>
      if l.isType then .node l s ps
      else
        let inner := known.filter (fun n => !(Tree.scopeNames l ps).contains n)
        .node l s (qualifyAll id inner ps)

def qualifyAll (id : String) (known : List String) : List Tree → List Tree
  | [] => []
  | t :: ts => qualify id known t :: qualifyAll id known ts

end

def memberName : Tree → String
  | .node (.key s) _ _ | .node (.text s) _ _ => s
  | .node (.number x _) _ _ => Constant.numberText x
  | .node .computed _ [.node (.text s) _ _] => s
  | .node .computed _ [.node (.template [s]) _ []] => s
  | _ => ""

structure Progress where
  own : List (String × Option Constant)
  last : Option Float := some (-1.0)
  before : Option String := none

def slot (id key : String) : Tree := .node (.index false) 0 [Tree.name id, Tree.text key]

def memberValue (table : EnumTable) (id key : String) (value : Tree) (p : Progress) :
    Tree × Progress :=
  if value.isAbsent then
    match p.last, p.before with
    | some x, _ =>
        (numberTree (x + 1), ⟨p.own ++ [(key, some (.number (x + 1)))], some (x + 1), some key⟩)
    | none, some before =>
        (.node (.binary .add) 0 [Tree.leaf (.number 1.0 ""), slot id before],
          { p with before := some key })
    | none, none => (numberTree 0.0, { p with before := some key })
  else
    let c := table.constant p.own value
    let own := (key, c) :: p.own.filter (·.1 != key)
    match c with
    | some (.number x) => (numberTree x, ⟨own, some x, some key⟩)
    | some (.text s) => (Tree.text s, ⟨own, none, some key⟩)
    | none => (qualify id (p.own.map (·.1)) value, ⟨own, none, some key⟩)

def isText : Tree → Bool
  | .node (.text _) _ _ => true
  | _ => false

def assignMember (id key : String) (value : Tree) : Tree :=
  let e := Tree.node (.assign .plain) 0 [slot id key, value]
  if isText value then e
  else .node (.assign .plain) 0 [.node (.index false) 0 [Tree.name id, e], Tree.text key]

def memberStatements (table : EnumTable) (id : String) : List Tree → Progress → List Tree × Progress
  | [], p => ([], p)
  | .node .enumMember s [key, value] :: ms, p =>
      let name := memberName key
      let (v, p) := memberValue table id name value p
      let (rest, last) := memberStatements table id ms p
      (.node .expression s [assignMember id name v] :: rest, last)
  | _ :: ms, p => memberStatements table id ms p

def calls : Tree → Bool
  | .node .enumMember _ [_, .node (.call _ _ _) _ _]
  | .node .enumMember _ [_, .node (.new _ _) _ _] => true
  | _ => false

structure Setting where
  exported : Bool
  top : Bool
  declared : Bool

def build (table : EnumTable) (setting : Setting) (id : String) (ms : List Tree) (stop : Nat) :
    Tree × EnumTable :=
  let (stmts, p) := memberStatements table id ms { own := table.members id }
  let ret := Tree.node .ret 0 [Tree.name id]
  let param := Tree.node (.param {}) 0 [Tree.list [], Tree.name id]
  let f := Tree.node (.function {}) 0
    [.absent, Tree.list [], Tree.list [param], .absent, .node (.block stop) 0 (stmts ++ [ret])]
  let fresh := Tree.leaf .object
  let arg := if (setting.exported || !setting.top) && !setting.declared then fresh
    else .node (.binary .or) 0 [Tree.name id, fresh]
  (.node (.call false (!ms.any calls) 0) 0 [f, Tree.list [], arg],
    (id, p.own) :: table.filter (·.1 != id))

def lower (table : EnumTable) (setting : Setting) (start : Nat) (id : String) (ms : List Tree)
    (stop : Nat) : Tree × EnumTable :=
  let (value, table) := build table setting id ms stop
  if setting.declared then
    (.node .expression start [.node (.assign .plain) 0 [Tree.name id, value]], table)
  else
    let kind := if setting.exported || !setting.top then VarKind.block else .var
    let d := Tree.node (.vars kind false) start [.node (.declarator false) 0 [Tree.name id, value]]
    (if setting.exported then .node .exportDeclaration start [d] else d, table)

end Enum

end LivePreview.Script
