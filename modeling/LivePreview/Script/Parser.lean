import LivePreview.Script.Names
import LivePreview.Script.Parser.Statement

namespace LivePreview.Script

namespace Parser

def level (go : Grammar) : Grammar
  | .expression => expression go
  | .assignment returnType => assignment go returnType
  | .binary least => binary go least
  | .unary => unary go
  | .operand => operand go
  | .callee => callee go
  | .statement single => statement go single
  | .block => braced go false
  | .functionBody => functionBody go
  | .pattern => pattern go
  | .type => type go
  | .typeOperand => typeOperand go
  | .element inChild => element go inChild
  | .classBody => classBody go

def grammar : Nat → Grammar
  | 0, _ => throw "Unexpected token"
  | n + 1, goal => level (grammar n) goal

/-- No sentence nests more deeply than some levels for each of its characters. -/
def depthFor (source : List Char) : Nat := 16 * source.length + 64

def readHashbang : Parse (Option String) := do
  let s ← get
  match s.here.rest with
  | '#' :: '!' :: rest =>
      let cs := rest.takeWhile (fun c => !isLineEnd c)
      set { s with next := s.next.skip (cs.length + 2) }
      return some (String.ofList cs)
  | _ => return none

def program (go : Grammar) : Parse Program := do
  let hashbang ← readHashbang
  advance
  let body ← statements go false true
  let endAt ← here
  let s ← get
  return { hashbang, body, endAt, comments := s.log.settled.reverse, elements := s.dialect.elements }

def exportedNames : Tree → List String
  | .node .exportDeclaration _ [d] => d.declaredNames
  | .node (.exportItems _ items _) _ _ => items.map (·.exported.value)
  | .node (.exportAll _ (some n) _) _ _ => [n.value]
  | _ => []

def defaultCount : Tree → Nat
  | .node .exportDefault _ _ => 1
  | .node .exportDeclaration _ _ => 0
  | t => (exportedNames t).count "default"

def exportFaults (body : List Tree) : List String :=
  (repeated [] (body.flatMap exportedNames)).map (fun n => "Duplicated export '" ++ n ++ "'") ++
    (if 1 < (body.map defaultCount).foldl (· + ·) 0 then ["Duplicated default export"] else [])

def unsettled (s : State) : List String :=
  s.defaults.map (fun _ => "Invalid assignment in object literal")

/-- All that is wrong with a source in which reading could not go on. When it stopped at the end
because of an earlier token, the fault of that token stands for both. -/
def fatalFaults (fatal : String) (s : State) : List String :=
  let lexed := s.tokenFaults.reverse
  let atEnd := s.ended || s.token.kind == .eof || 0 < s.opened
  lexed ++ s.faults.reverse ++ (if !lexed.isEmpty && atEnd then [] else [fatal]) ++ unsettled s

def declaresFlow (s : State) : Bool :=
  match s.log.settled.reverse with
  | c :: _ => (c.text.splitOn "@flow").length != 1
  | [] => false

end Parser

def Program.parse (dialect : Dialect) (source : String) : Except (List String) Program :=
  let cs := source.toList
  match (Parser.program (Parser.grammar (Parser.depthFor cs))).run (Parser.State.initial dialect cs) with
  | .error fatal s => .error (tell s (Parser.fatalFaults fatal s))
  | .ok p s =>
      let all := tell s (s.tokenFaults.reverse ++ s.faults.reverse ++ Parser.unsettled s) ++
        (if dialect.types then [] else Parser.exportFaults p.body)
      if all.isEmpty then .ok p else .error all
where
  tell (s : Parser.State) (faults : List String) : List String :=
    if !faults.isEmpty && !dialect.types && Parser.declaresFlow s then ["Flow is not supported"]
    else faults

end LivePreview.Script
