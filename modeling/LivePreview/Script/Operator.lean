namespace LivePreview.Script

inductive UnaryOp where
  | plus
  | minus
  | not
  | bitNot
  | typeOf
  | void
  | delete
  deriving DecidableEq, Repr

def UnaryOp.text : UnaryOp → String
  | .plus => "+"
  | .minus => "-"
  | .not => "!"
  | .bitNot => "~"
  | .typeOf => "typeof"
  | .void => "void"
  | .delete => "delete"

def UnaryOp.isWord : UnaryOp → Bool
  | .typeOf | .void | .delete => true
  | _ => false

inductive UpdateOp where
  | increment
  | decrement
  deriving DecidableEq, Repr

def UpdateOp.text : UpdateOp → String
  | .increment => "++"
  | .decrement => "--"

inductive Level where
  | lowest
  | comma
  | spread
  | yielding
  | assign
  | conditional
  | coalesce
  | or
  | and
  | bitOr
  | bitXor
  | bitAnd
  | equals
  | compare
  | shift
  | add
  | multiply
  | power
  | before
  | after
  | new
  | call
  | member
  deriving DecidableEq, Repr

def Level.rank (l : Level) : Nat := l.ctorIdx

instance : LE Level where
  le a b := a.rank ≤ b.rank

instance : LT Level where
  lt a b := a.rank < b.rank

instance (a b : Level) : Decidable (a ≤ b) := inferInstanceAs (Decidable (a.rank ≤ b.rank))

instance (a b : Level) : Decidable (a < b) := inferInstanceAs (Decidable (a.rank < b.rank))

def Level.below : Level → Level
  | .lowest | .comma => .lowest
  | .spread => .comma
  | .yielding => .spread
  | .assign => .yielding
  | .conditional => .assign
  | .coalesce => .conditional
  | .or => .coalesce
  | .and => .or
  | .bitOr => .and
  | .bitXor => .bitOr
  | .bitAnd => .bitXor
  | .equals => .bitAnd
  | .compare => .equals
  | .shift => .compare
  | .add => .shift
  | .multiply => .add
  | .power => .multiply
  | .before => .power
  | .after => .before
  | .new => .after
  | .call => .new
  | .member => .call

inductive BinaryOp where
  | eq
  | ne
  | strictEq
  | strictNe
  | lt
  | le
  | gt
  | ge
  | shl
  | shr
  | ushr
  | add
  | sub
  | mul
  | div
  | rem
  | pow
  | bitOr
  | bitXor
  | bitAnd
  | isIn
  | instanceOf
  | or
  | and
  | coalesce
  deriving DecidableEq, Repr

namespace BinaryOp

def text : BinaryOp → String
  | .eq => "=="
  | .ne => "!="
  | .strictEq => "==="
  | .strictNe => "!=="
  | .lt => "<"
  | .le => "<="
  | .gt => ">"
  | .ge => ">="
  | .shl => "<<"
  | .shr => ">>"
  | .ushr => ">>>"
  | .add => "+"
  | .sub => "-"
  | .mul => "*"
  | .div => "/"
  | .rem => "%"
  | .pow => "**"
  | .bitOr => "|"
  | .bitXor => "^"
  | .bitAnd => "&"
  | .isIn => "in"
  | .instanceOf => "instanceof"
  | .or => "||"
  | .and => "&&"
  | .coalesce => "??"

def level : BinaryOp → Level
  | .eq | .ne | .strictEq | .strictNe => .equals
  | .lt | .le | .gt | .ge | .isIn | .instanceOf => .compare
  | .shl | .shr | .ushr => .shift
  | .add | .sub => .add
  | .mul | .div | .rem => .multiply
  | .pow => .power
  | .bitOr => .bitOr
  | .bitXor => .bitXor
  | .bitAnd => .bitAnd
  | .or => .or
  | .and => .and
  | .coalesce => .coalesce

end BinaryOp

inductive AssignOp where
  | plain
  | through (op : BinaryOp)
  deriving DecidableEq, Repr

def AssignOp.text : AssignOp → String
  | .plain => "="
  | .through op => op.text ++ "="

end LivePreview.Script
