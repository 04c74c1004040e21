import LivePreview.Script.Operator

namespace LivePreview.Script

inductive VarKind where
  | var
  | block
  | const
  | using
  | awaitUsing
  deriving DecidableEq, Repr

def VarKind.text : VarKind → String
  | .var => "var"
  | .block => "let"
  | .const => "const"
  | .using => "using"
  | .awaitUsing => "await using"

def VarKind.isResource : VarKind → Bool
  | .using | .awaitUsing => true
  | _ => false

inductive MethodKind where
  | method
  | get
  | set
  deriving DecidableEq, Repr

inductive ModuleName where
  | name (s : String)
  | text (s : String)
  deriving DecidableEq, Repr

def ModuleName.value : ModuleName → String
  | .name s => s
  | .text s => s

structure ImportItem where
  typeOnly : Bool
  imported : ModuleName
  localName : String
  deriving DecidableEq, Repr

structure ExportItem where
  typeOnly : Bool
  source : ModuleName
  exported : ModuleName
  deriving DecidableEq, Repr

structure Attributes where
  word : String
  entries : List (ModuleName × String)
  deriving DecidableEq, Repr

structure ModuleSource where
  path : String
  attributes : Option Attributes := none
  deriving DecidableEq, Repr

structure Import where
  typeOnly : Bool := false
  phase : Option String := none
  default : Option String := none
  star : Option String := none
  items : Option (List ImportItem) := none
  source : ModuleSource
  deriving DecidableEq, Repr

structure Modifiers where
  accessibility : Option String := none
  isStatic : Bool := false
  isAbstract : Bool := false
  isOverride : Bool := false
  isReadonly : Bool := false
  isDeclare : Bool := false
  isAccessor : Bool := false
  isAsync : Bool := false
  isConst : Bool := false
  deriving DecidableEq, Repr

structure FunctionForm where
  isAsync : Bool := false
  isGenerator : Bool := false
  isDeclare : Bool := false
  isQuiet : Bool := false
  deriving DecidableEq, Repr

/-- What a node of a syntax tree is. A part that is left out stands there as `absent`. -/
inductive Label where
  -- in any place
  | absent
  | list
  | name (id : String)
  | text (s : String)
  | number (value : Float) (raw : String)
  | bigint (raw : String)
  -- keys of properties and members
  | key (s : String)
  | secret (s : String)
  | computed
  -- expressions
  | this
  | super
  | null
  | bool (b : Bool)
  | regex (raw : String)
  | template (pieces : List String)
  | tagged (pieces : List String)
  | array
  | hole
  | spread
  | object
  | field (shorthand : Bool)
  | shortDefault (id : String)
  | method (kind : MethodKind)
  -- The name or absent, the type parameters, the parameters, the result type, the body.
  | function (form : FunctionForm)
  -- The type parameters, the parameters, the result type, the body or the value.
  | arrow (isAsync isQuiet : Bool)
  -- The name, the decorators, the type parameters, the base class, its type arguments, the
  -- interfaces, the members.
  | classBody (isAbstract isDeclare : Bool) (closeAt : Nat)
  | unary (op : UnaryOp)
  | update (op : UpdateOp) (front : Bool)
  | binary (op : BinaryOp)
  | conditional
  | assign (op : AssignOp)
  | sequence
  | await
  | yield (delegate : Bool)
  | member (id : String) (optional : Bool)
  | privateMember (id : String) (optional : Bool)
  | index (optional : Bool)
  -- The callee, the list of type arguments, the arguments.
  | call (optional pure : Bool) (closeAt : Nat)
  | new (pure : Bool) (closeAt : Nat)
  | importCall (closeAt : Nat)
  | importMeta
  | newTarget
  | chain
  | paren
  -- A value whose type has been taken off.
  | untyped
  | asType
  | satisfies
  | nonNull
  | assertion
  | instantiation
  -- elements
  -- The name, the list of type arguments, the list of attributes, the children.
  | element (selfClosing : Bool)
  | fragment
  | tag (s : String)
  | tagMember (s : String)
  | tagScoped (space s : String)
  | attr (space : Option String) (s : String)
  | attributeText (raw : String)
  | attributeSpread
  | container (closeAt : Nat)
  | childText (raw : String)
  | childSpread
  -- patterns
  | arrayPattern (binds : Bool)
  | objectPattern (binds : Bool)
  | propertyPattern (shorthand : Bool)
  | rest
  | withDefault
  | typed (optional : Bool)
  | param (modifiers : Modifiers)
  | receiver
  -- statements
  | expression
  | directive (raw : String)
  | empty
  | debugger
  | block (closeAt : Nat)
  | vars (kind : VarKind) (isDeclare : Bool)
  | declarator (definite : Bool)
  | ifThen
  | forLoop
  | forIn
  | forOf (isAwait : Bool)
  | whileLoop
  | doWhile
  | switch (closeAt : Nat)
  | case
  | ret
  | break (label : Option String)
  | continue (label : Option String)
  | throw
  -- The block, the catch clause or absent, the last block or absent.
  | tryBlock
  | catchClause
  | labeled (label : String)
  | withObject
  | imports (i : Import)
  | exportItems (typeOnly : Bool) (items : List ExportItem) (source : Option ModuleSource)
  | exportAll (typeOnly : Bool) (name : Option ModuleName) (source : ModuleSource)
  | exportDeclaration
  | exportDefault
  -- class members
  | classMethod (kind : MethodKind) (modifiers : Modifiers) (optional : Bool)
  | classField (modifiers : Modifiers) (optional definite : Bool)
  | staticBlock (closeAt : Nat)
  | classIndex (modifiers : Modifiers)
  -- declarations of types
  -- The type parameters, the bases, the members.
  | interface (id : String) (isDeclare : Bool)
  | alias (id : String) (isDeclare : Bool)
  -- Members: the key, the value or absent.
  | enum (id : String) (isConst isDeclare : Bool) (closeAt : Nat)
  | enumMember
  -- The body or absent.
  | moduleBlock (word : String) (path : List ModuleName) (isDeclare : Bool)
  | importEquals (typeOnly : Bool) (id : String) (path : List String)
  | importRequire (typeOnly : Bool) (id : String) (source : String)
  | exportEquals
  | exportAsNamespace (id : String)
  -- types
  | typeParam (id : String) (words : List String)
  | typeWord (s : String)
  | typeLiteral
  | typeName (path : String)
  | typeQuery (path : String)
  | typeQueryOf
  | typeImport (path : List String)
  | typeArray
  | typeTuple
  | typeMarked (text : String) (behind : Bool)
  | typeRest
  | typeNamed (id : String) (optional : Bool)
  | typeIndexed
  | typeParen
  | union
  | intersection
  | typeOperator (word : String)
  | typeFunction
  | typeConstructor (isAbstract : Bool)
  | typeObject
  | typeField (isReadonly optional : Bool)
  | typeMethod (kind : MethodKind) (optional : Bool)
  | typeCall
  | typeConstruct
  | typeIndex (isReadonly : Bool)
  | typeMapped (isReadonly : Option String) (id : String) (optional : Option String)
  | typeConditional
  | typeInfer (id : String)
  | typeTemplate (pieces : List String)
  | typePredicate (asserts : Bool) (id : String)

inductive Tree where
  | node (label : Label) (start : Nat) (parts : List Tree)

namespace Tree

def label : Tree → Label
  | .node l _ _ => l

def start : Tree → Nat
  | .node _ s _ => s

def parts : Tree → List Tree
  | .node _ _ ps => ps

@[match_pattern]
abbrev absent : Tree := .node .absent 0 []

instance : Inhabited Tree := ⟨absent⟩

def leaf (l : Label) : Tree := .node l 0 []

def list (ts : List Tree) : Tree := .node .list 0 ts

def name (id : String) : Tree := leaf (.name id)

def text (s : String) : Tree := leaf (.text s)

def isAbsent : Tree → Bool
  | .node .absent _ _ => true
  | _ => false

def ofOption : Option Tree → Tree
  | some t => t
  | none => absent

mutual

def depth : Tree → Nat
  | .node _ _ ps => depthAll ps + 1

def depthAll : List Tree → Nat
  | [] => 0
  | t :: ts => max (depth t) (depthAll ts)

end

def bare : Tree → Tree
  | .node .paren _ [e] | .node .untyped _ [e] => bare e
  | t => t

end Tree

structure Comment where
  text : String
  isLine : Bool
  afterNewline : Bool
  beforeNewline : Bool
  attachedTo : Option Nat := none
  deriving DecidableEq, Repr

structure Program where
  hashbang : Option String := none
  body : List Tree
  endAt : Nat
  comments : List Comment
  elements : Bool := false

end LivePreview.Script
