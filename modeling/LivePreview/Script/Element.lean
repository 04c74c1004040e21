import LivePreview.Script.Element.Entity
import LivePreview.Script.Element.Pragma
import LivePreview.Script.Erase
import LivePreview.Script.Lexer

namespace LivePreview.Script

namespace Element

def trimEnd (cs : List Char) : List Char := (cs.reverse.dropWhile isBlank).reverse

def splitLines : List Char → List (List Char)
  | [] => [[]]
  | c :: cs =>
      match splitLines cs with
      | l :: ls => if isLineEnd c then [] :: l :: ls else (c :: l) :: ls
      | [] => [[c]]

def trimLines : List (List Char) → List (List Char)
  | [] => []
  | [l] => [l.dropWhile isBlank]
  | l :: ls => trimEnd (l.dropWhile isBlank) :: trimLines ls

def contentLines (cs : List Char) : List (List Char) :=
  match splitLines cs with
  | [] => []
  | [l] => [l]
  | l :: ls =>
      let first := if l.all isBlank then [] else trimEnd l
      (first :: trimLines ls)

def decodedText (cs : List Char) : Tree := Tree.text (String.ofList (holdText cs))

def textValue (raw : String) : Option Tree :=
  let lines := (contentLines raw.toList).filter (!·.isEmpty)
  match lines with
  | [] => none
  | ls => some (decodedText (Text.joinWith [' '] (ls.map decodeEntities)))

def tagValue : Tree → Tree
  | .node (.tag s) _ _ => Tree.text s
  | .node (.tagScoped space s) _ _ => Tree.text (space ++ ":" ++ s)
  | .node (.tagMember s) n [t] => .node (.member s false) n [tagValue t]
  | t => t

def attributeKey (space : Option String) (s : String) : Tree :=
  match space with
  | some x => Tree.text (x ++ ":" ++ s)
  | none => if s.toList.contains '-' then Tree.text s else Tree.leaf (.key s)

def attributeValue : Tree → Tree
  | .node .absent _ _ | .node (.container _) _ [.node .absent _ _] => Tree.leaf (.bool true)
  | .node (.attributeText raw) _ _ => decodedText (decodeEntities raw.toList)
  | .node (.container _) _ [e] => e
  | e => e

def setsPrototype : Tree → Bool
  | .node (.field false) _ (.node (.key s) _ _ :: _) | .node (.field false) _ (.node (.text s) _ _ :: _) =>
      s == "__proto__"
  | _ => false

def spreadItems (e : Tree) : Option (List Tree) :=
  let plain := match e with
    | .node .untyped _ _ => e.bare
    | e => e
  match plain with
  | .node .object _ items => if items.any setsPrototype then none else some items
  | _ => none

def isObject : Tree → Bool
  | .node .object _ _ => true
  | _ => false

def property : Tree → List Tree
  | .node (.attr space s) _ [value] =>
      [.node (.field false) 0 [attributeKey space s, attributeValue value]]
  | .node .attributeSpread _ [e] => (spreadItems e).getD [.node .spread 0 [e]]
  | _ => []

def properties (attributes : List Tree) : Tree :=
  match attributes with
  | [] => Tree.leaf .null
  | [.node .attributeSpread _ [e]] =>
      if isObject e && (spreadItems e).isNone then .node .object 0 [.node .spread 0 [e]] else e
  | as => .node .object 0 (as.flatMap property)

def childValue : Tree → Option Tree
  | .node (.childText raw) _ _ => textValue raw
  | .node (.container _) _ [.node .absent _ _] => none
  | .node (.container _) _ [e] => some e
  | .node .childSpread s [e] => some (.node .spread s [e])
  | e => some e

inductive Builder where
  | single
  | several
  | fragment
  | keyed
  deriving DecidableEq, Repr

def Builder.exported : Builder → String
  | .single => "jsx"
  | .several => "jsxs"
  | .fragment => "Fragment"
  | .keyed => "createElement"

inductive Factory where
  | path (element fragment : List String)
  | module (source : String) (taken : List String)
  deriving DecidableEq, Repr

def localName (taken : List String) (b : Builder) : String := freshName taken b.exported

def isKey : Tree → Bool
  | .node (.attr none s) _ _ => s == "key"
  | _ => false

def isSpread : Tree → Bool
  | .node .attributeSpread _ _ => true
  | _ => false

def hasLateKey (attributes : List Tree) : Bool :=
  (attributes.dropWhile (fun a => !isSpread a)).any isKey

def pureCall (s : Nat) (callee : Tree) (args : List Tree) : Tree :=
  .node (.call false true 0) s (callee :: Tree.list [] :: args)

def childrenProperty (children : List Tree) : List Tree :=
  let field (value : Tree) := Tree.node (.field false) 0 [Tree.leaf (.key "children"), value]
  match children with
  | [] => []
  | [child] => [field child]
  | cs => [field (.node .array 0 cs)]

def severalOrSingle (children : List Tree) : Builder :=
  if 1 < children.length then .several else .single

def keyValue (attributes : List Tree) : List Tree :=
  (((attributes.filter isKey).getLast?.bind (·.parts.head?)).map attributeValue).toList

def lowerNode (f : Factory) (l : Label) (s : Nat) (ps : List Tree) : Tree :=
  match f, l, ps with
  | .path element _, .element _, tag :: _ :: .node .list _ attributes :: children =>
      pureCall s (pathValue element) (tagValue tag :: properties attributes :: children.filterMap childValue)
  | .path element fragment, .fragment, children =>
      pureCall s (pathValue element) (pathValue fragment :: Tree.leaf .null :: children.filterMap childValue)
  | .module _ taken, .element _, tag :: _ :: .node .list _ attributes :: children =>
      let children := children.filterMap childValue
      if hasLateKey attributes then
        pureCall s (Tree.name (localName taken .keyed)) (tagValue tag :: properties attributes :: children)
      else
        let props := (attributes.filter (!isKey ·)).flatMap property ++ childrenProperty children
        pureCall s (Tree.name (localName taken (severalOrSingle children)))
          (tagValue tag :: .node .object 0 props :: keyValue attributes)
  | .module _ taken, .fragment, children =>
      let children := children.filterMap childValue
      pureCall s (Tree.name (localName taken (severalOrSingle children)))
        [Tree.name (localName taken .fragment), .node .object 0 (childrenProperty children)]
  | _, l, ps => .node l s ps

def holdsElements : Label → Bool
  | .element _ | .fragment | .attr _ _ => true
  | _ => false

mutual

def ownBuilders : Tree → List Builder
  | .node (.element _) _ (_ :: _ :: .node .list _ attributes :: children) =>
      ownBuildersAll attributes ++ ownBuildersAll children ++
        [if hasLateKey attributes then .keyed else severalOrSingle (children.filterMap childValue)]
  | .node .fragment _ children =>
      .fragment :: ownBuildersAll children ++ [severalOrSingle (children.filterMap childValue)]
  | .node (.attr _ _) _ ps => ownBuildersAll ps
  | _ => []

def ownBuildersAll : List Tree → List Builder
  | [] => []
  | t :: ts => ownBuilders t ++ ownBuildersAll ts

end

mutual

def builders : Tree → List Builder
  | .node l _ ps => buildersAll (holdsElements l) ps

def buildersAll (inElement : Bool) : List Tree → List Builder
  | [] => []
  | t :: ts => builders t ++ (if inElement then [] else ownBuilders t) ++ buildersAll inElement ts

end

def builderImport (taken : List String) (source : String) (bs : List Builder) : List Tree :=
  let item (b : Builder) : ImportItem := ⟨false, .name b.exported, localName taken b⟩
  if bs.isEmpty then []
  else [Tree.leaf (.imports { items := some (bs.map item), source := { path := source } })]

def builderImports (source : String) (taken : List String) (body : List Tree) : List Tree :=
  let bs := (buildersAll false body).eraseDups
  let whole := builderImport taken source (bs.filter (· == .keyed))
  let runtime := builderImport taken (source ++ "/jsx-runtime") (bs.filter (· != .keyed))
  if bs.head? == some .keyed then whole ++ runtime else runtime ++ whole

def scopedFault : String :=
  "Namespace tags are not supported by default. React's JSX doesn't support namespace tags. You can set `throwIfNamespace: false` to bypass this warning."

def keyFault : String :=
  "Please provide an explicit key value. Using \"key\" as a shorthand for \"key=\x7btrue\x7d\" is not allowed."

def childFault : String := "Spread children are not supported in React."

def labelFaults (automatic : Bool) (l : Label) (ps : List Tree) : List String :=
  match l, ps with
  | .tagScoped _ _, _ => [scopedFault]
  | .attr none "key", [.node .absent _ _] => [keyFault]
  | .childSpread, _ => if automatic then [childFault] else []
  | _, _ => []

mutual

def faults (automatic : Bool) : Tree → List String
  | .node l _ ps => labelFaults automatic l ps ++ faultsAll automatic ps

def faultsAll (automatic : Bool) : List Tree → List String
  | [] => []
  | t :: ts => faults automatic t ++ faultsAll automatic ts

end

def Pragmas.factory (p : Pragmas) (body : List Tree) : Factory :=
  if p.automatic then .module (p.source.getD "react") (Tree.allNamesAll body)
  else .path p.elementPath p.fragmentPath

def Factory.imports (f : Factory) (body : List Tree) : List Tree :=
  match f with
  | .path _ _ => []
  | .module source taken => builderImports source taken body

end Element

def Program.lowerElements (p : Program) (pragmas : Element.Pragmas) : Except (List String) Program :=
  let faults := pragmas.faults ++ Element.faultsAll pragmas.automatic p.body
  let f := pragmas.factory p.body
  let body := afterImports (f.imports p.body) (Tree.rebuildAll (Element.lowerNode f) p.body)
  if faults.isEmpty then .ok { p with body } else .error faults

end LivePreview.Script
