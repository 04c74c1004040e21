import LivePreview.Script.Tree

namespace LivePreview.Script

namespace Label

def isType : Label → Bool
  | .typeParam _ _ | .typeWord _ | .typeLiteral | .typeName _ | .typeQuery _ | .typeQueryOf
  | .typeImport _ | .typeArray | .typeTuple | .typeMarked _ _ | .typeRest | .typeNamed _ _
  | .typeIndexed | .typeParen | .union | .intersection | .typeOperator _ | .typeFunction
  | .typeConstructor _ | .typeObject | .typeField _ _ | .typeMethod _ _ | .typeCall
  | .typeConstruct | .typeIndex _ | .typeMapped _ _ _ | .typeConditional | .typeInfer _
  | .typeTemplate _ | .typePredicate _ _ => true
  | _ => false

end Label

namespace Tree

mutual

def boundNames : Tree → List String
  | .node (.name id) _ _ => [id]
  | .node (.arrayPattern _) _ ps | .node (.objectPattern _) _ ps => boundNamesAll ps
  | .node (.propertyPattern _) _ [_, p] => boundNames p
  | .node .withDefault _ (p :: _) | .node (.typed _) _ (p :: _) | .node .rest _ (p :: _) => boundNames p
  | .node (.param _) _ [_, p] => boundNames p
  | .node (.declarator _) _ (p :: _) => boundNames p
  | _ => []

def boundNamesAll : List Tree → List String
  | [] => []
  | p :: ps => boundNames p ++ boundNamesAll ps

end

def isTypeOnly : Tree → Bool
  | .node (.interface _ _) _ _ | .node (.alias _ _) _ _ | .node (.exportAsNamespace _) _ _ => true
  | .node (.vars _ isDeclare) _ _ | .node (.classBody _ isDeclare _) _ _
  | .node (.enum _ _ isDeclare _) _ _ | .node (.moduleBlock _ _ isDeclare) _ _ => isDeclare
  | .node (.function form) _ parts => form.isDeclare || (parts.getLast?.getD .absent).isAbsent
  | .node (.importEquals typeOnly _ _) _ _ | .node (.importRequire typeOnly _ _) _ _ => typeOnly
  | .node .absent _ _ => true
  | _ => false

def blockNames : Tree → List String
  | .node .exportDeclaration _ [d] | .node .exportDefault _ [d] => declared d
  | t => declared t
where
  declared : Tree → List String
    | .node (.vars .var _) _ _ => []
    | .node (.vars _ _) _ ds => boundNamesAll ds
    | .node (.function _) _ (id :: _) | .node (.classBody _ _ _) _ (id :: _) => boundNames id
    | .node (.enum id _ _ _) _ _ => [id]
    | .node (.moduleBlock _ (n :: _) _) _ _ => [n.value]
    | .node (.importEquals _ id _) _ _ | .node (.importRequire _ id _) _ _ => [id]
    | _ => []

def declaredNames : Tree → List String
  | .node (.vars _ _) _ ds => boundNamesAll ds
  | t => blockNames t

mutual

def hoistedNames : Tree → List String
  | .node (.vars .var false) _ ds => boundNamesAll ds
  | .node (.function _) _ _ | .node (.arrow _ _) _ _ | .node (.classBody _ _ _) _ _
  | .node (.moduleBlock _ _ _) _ _ => []
  | .node l _ ps => if l.isType then [] else hoistedNamesAll ps

def hoistedNamesAll : List Tree → List String
  | [] => []
  | t :: ts => hoistedNames t ++ hoistedNamesAll ts

end

def without (names bound : List String) : List String := names.filter (fun n => !bound.contains n)

def itemNames (items : List ExportItem) : List String :=
  items.filterMap fun i => match i.typeOnly, i.source with
    | false, .name s => some s
    | _, _ => none

def enumKeys (ms : List Tree) : List String :=
  ms.filterMap fun m => match m with
    | .node .enumMember _ (.node (.key s) _ _ :: _) => some s
    | .node .enumMember _ (.node (.text s) _ _ :: _) => some s
    | _ => none

def scopeNames (l : Label) (ps : List Tree) : List String :=
  match l, ps with
  | .function _, [id, _, .node .list _ params, _, body] =>
      boundNames id ++ boundNamesAll params ++ hoistedNamesAll body.parts
  | .arrow _ _, [_, .node .list _ params, _, body] =>
      boundNamesAll params ++ hoistedNamesAll body.parts
  | .classBody _ _ _, id :: _ => boundNames id
  | .block _, body => body.flatMap blockNames
  | .staticBlock _, body => body.flatMap blockNames ++ hoistedNamesAll body
  | .switch _, _ :: cases => (cases.flatMap (·.parts)).flatMap blockNames
  | .forLoop, .node (.vars .var _) _ _ :: _ => []
  | .forIn, .node (.vars .var _) _ _ :: _ => []
  | .forOf _, .node (.vars .var _) _ _ :: _ => []
  | .forLoop, .node (.vars _ _) _ ds :: _ => boundNamesAll ds
  | .forIn, .node (.vars _ _) _ ds :: _ => boundNamesAll ds
  | .forOf _, .node (.vars _ _) _ ds :: _ => boundNamesAll ds
  | .catchClause, p :: _ => boundNames p
  | .enum id _ _ _, ms => id :: enumKeys ms
  | .moduleBlock _ _ _, [body] => (body.parts.flatMap declaredNames) ++ hoistedNamesAll body.parts
  | _, _ => []

mutual

/-- The variables used for their value in a tree and not bound in it. What a parameter refers to is
not looked for in the body of its function. -/
def usedNames : Tree → List String
  | .node (.function form) _ [id, _, .node .list _ params, _, .node l s body] =>
      if form.isDeclare || isAbsent (.node l s body) then []
      else
        let own := boundNames id ++ boundNamesAll params
        without (usedNamesAll params) own ++
          without (usedNames (.node l s body)) (own ++ hoistedNamesAll body)
  | .node (.arrow _ _) _ [_, .node .list _ params, _, body] =>
      let own := boundNamesAll params
      without (usedNamesAll params) own ++
        without (usedNames body) (own ++ hoistedNamesAll body.parts)
  | .node l s ps =>
      if l.isType || isTypeOnly (.node l s ps) then []
      else
        match l with
        | .name id => [id]
        | .exportItems false items none => itemNames items
        | .importEquals false _ (id :: _) => [id]
        | l => without (usedNamesAll ps) (scopeNames l ps)

def usedNamesAll : List Tree → List String
  | [] => []
  | t :: ts => usedNames t ++ usedNamesAll ts

end

mutual

def allNames : Tree → List String
  | .node (.name id) _ _ => [id]
  | .node (.enum id _ _ _) _ ps => id :: allNamesAll ps
  | .node (.moduleBlock _ path _) _ ps => path.map ModuleName.value ++ allNamesAll ps
  | .node (.imports i) _ _ =>
      i.default.toList ++ i.star.toList ++ (i.items.getD []).map (·.localName)
  | .node _ _ ps => allNamesAll ps

def allNamesAll : List Tree → List String
  | [] => []
  | t :: ts => allNames t ++ allNamesAll ts

end

end Tree

def candidate (base : List Char) (n : Nat) : String :=
  String.ofList ('_' :: base) ++ (if n ≤ 1 then "" else toString n)

def freshName (taken : List String) (id : String) : String :=
  let base := ((id.toList.dropWhile (· == '_')).reverse.dropWhile Char.isDigit).reverse
  let free := (List.range (taken.length + 1)).find? fun n => !taken.contains (candidate base (n + 1))
  candidate base (free.getD 0 + 1)

namespace Tree

mutual

def hasLabel (p : Label → Bool) : Tree → Bool
  | .node l _ ps => p l || hasLabelAll p ps

def hasLabelAll (p : Label → Bool) : List Tree → Bool
  | [] => false
  | t :: ts => hasLabel p t || hasLabelAll p ts

end

mutual

def rebuild (f : Label → Nat → List Tree → Tree) : Tree → Tree
  | .node l s ps => f l s (rebuildAll f ps)

def rebuildAll (f : Label → Nat → List Tree → Tree) : List Tree → List Tree
  | [] => []
  | t :: ts => rebuild f t :: rebuildAll f ts

end

end Tree

end LivePreview.Script
