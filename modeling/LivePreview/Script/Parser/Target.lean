import LivePreview.Script.Parser.Basic

namespace LivePreview.Script.Parser

def notAssignable : String := "Cannot assign to this expression"

def dropDefault (s : Nat) : Parse Unit := modify fun st => { st with defaults := st.defaults.erase s }

def isPlace : Tree → Bool
  | .node (.name _) _ _ => true
  | .node (.member _ _) _ _ | .node (.privateMember _ _) _ _ | .node (.index _) _ _ => true
  | .node .paren _ [e] | .node .nonNull _ [e] => isPlace e
  | .node .asType _ (e :: _) | .node .satisfies _ (e :: _) => isPlace e
  | .node .assertion _ [_, e] => isPlace e
  | _ => false

def simpleTarget (t : Tree) : Parse Tree := if isPlace t then return t else throw notAssignable

def checkLast (last : Bool) : Parse Unit := do
  unless last do throw "Spread must be last element"

mutual

def target : Tree → Parse Tree
  | .node .array s items => return .node (.arrayPattern false) s (← targetItems s items)
  | .node .object s props => return .node (.objectPattern false) s (← targetProperties props)
  | t => simpleTarget t

def targetWithDefault : Tree → Parse Tree
  | .node (.assign .plain) s ps => return .node .withDefault s ps
  | .node .array s items => return .node (.arrayPattern false) s (← targetItems s items)
  | .node .object s props => return .node (.objectPattern false) s (← targetProperties props)
  | t => simpleTarget t

def targetItems (list : Nat) : List Tree → Parse (List Tree)
  | [] => return []
  | .node .hole s ps :: rest => return .node .hole s ps :: (← targetItems list rest)
  | .node .spread s [e] :: rest => do
      checkLast rest.isEmpty
      let p ← target e
      if (← get).commas.contains list then
        fault "A rest parameter or binding pattern may not have a trailing comma."
      return [.node .rest s [p]]
  | t :: rest => return (← targetWithDefault t) :: (← targetItems list rest)

def targetProperties : List Tree → Parse (List Tree)
  | [] => return []
  | .node (.field _) s [key, .node (.shortDefault id) at' [e]] :: rest => do
      dropDefault at'
      let p := Tree.node .withDefault s [.node (.name id) s [], e]
      return .node (.propertyPattern true) s [key, p] :: (← targetProperties rest)
  | .node (.field shorthand) s [key, value] :: rest => do
      let p ← targetWithDefault value
      return .node (.propertyPattern shorthand) s [key, p] :: (← targetProperties rest)
  | .node .spread s [e] :: rest => do
      checkLast rest.isEmpty
      return [.node .rest s [← target e]]
  | _ :: _ => throw notAssignable

end

end LivePreview.Script.Parser
